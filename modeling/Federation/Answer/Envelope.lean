/-
  Federation.Answer.Envelope
  ──────────────────────────
  **ENVELOPES.**

  From version 2 on a reply is an envelope: a code, the value, and words of
  the aggregate.  A version 1 reply is the value itself.  Where the code
  tells of an error, strict mode drops the value that came with it and
  relaxed mode keeps it beside the failure.

  A member `proof` of an envelope is not part of the answer: it is handed to
  whoever keeps the credentials, and the answer is the same without it.

  Main results:
    * `normalise_without_proof` — the proof does not influence the result;
    * `unwrap_value_ne_null` — a value that is there is never null;
    * `skipped_iff` — a result tells of a skip exactly where there was one.
-/
import Federation.Call.Visit
import Federation.Mode
import Federation.Text.Blank

namespace Federation.Answer

open Call (Failure ErrorKind Response)

/-! ## §1. Results. -/

/-- The answer of one aggregate, whatever the version. -/
structure Result where
  /-- Never null. -/
  value : Option Json
  failure : Option Failure
  /-- The aggregate's words. -/
  output : Option String
  /-- Whether the value was remembered from an earlier reply. -/
  fromCache : Bool
  deriving Inhabited

namespace Result

/-- A failure without a value. -/
def ofFailure (f : Failure) : Result := ⟨none, some f, none, false⟩

def isSuccess (r : Result) : Bool := r.failure.isNone

/-- The error code that the aggregate gave. -/
def errorCode (r : Result) : Option Int := r.failure.bind Failure.code

/-- The words for the failure. -/
def errorDetail (r : Result) : Option String := r.failure.map Failure.text

/-- The class of the failure. -/
def errorKind (r : Result) : Option ErrorKind := r.failure.map Failure.kind

end Result

/-! ## §2. Opening an envelope. -/

/-- The text of a member without outer blanks, where there is any. -/
def textAt? (j : Json) (key : String) : Option String :=
  (((j.member? key).bind Json.text?).map Text.trim).filter fun s => !s.isEmpty

/-- Why a reply is no envelope. -/
inductive EnvelopeFault where
  | notAMap
  | noCode
  | codeNotAMap
  | noErrorCode
  deriving DecidableEq, Repr

/-- The words for a fault. -/
def EnvelopeFault.message : EnvelopeFault → String
  | .notAMap => "reply is not a map"
  | .noCode => "reply has no code"
  | .codeNotAMap => "code is not a map"
  | .noErrorCode => "code has no integer geni_code"

/-- The map under `code` and the error code in it. -/
def codeOf (reply : Json) : Except EnvelopeFault (Json × Int) :=
  if reply.members?.isNone then .error .notAMap
  else match reply.member? "code" with
    | none => .error .noCode
    | some code =>
        if code.members?.isNone then .error .codeNotAMap
        else match (code.member? "geni_code").bind Json.int64? with
          | none => .error .noErrorCode
          | some n => .ok (code, n)

/-- The value in an envelope. -/
def valueOf (reply : Json) : Option Json := (reply.member? "value").bind Json.nonNull?

/-- The failure that a code tells of. -/
def failureOf (reply code : Json) (n : Int) : Option Failure :=
  if n = 0 then none
  else some (.reported n (textAt? code "am_type") ((code.member? "am_code").bind Json.int64?)
    (textAt? reply "output"))

/-- The result of a version 1 reply. -/
def bareResult (reply : Json) : Result := ⟨reply.nonNull?, none, none, false⟩

/-- The result of an envelope. -/
def openEnvelope (mode : Mode) (reply : Json) : Result :=
  match codeOf reply with
  | .error fault => .ofFailure (.malformedResponse fault.message)
  | .ok (code, n) =>
      -- A code other than zero is an error, even where a value came with it.
      let kept := n = 0 ∨ mode = .relaxed
      ⟨if kept then valueOf reply else none, failureOf reply code n, textAt? reply "output",
        false⟩

/-- The first version whose replies are envelopes. -/
def envelopeVersion : Nat := 2

/-- **The result of a reply.** -/
def unwrap (mode : Mode) (version : Nat) (reply : Json) : Result :=
  if version < envelopeVersion then bareResult reply else openEnvelope mode reply

/-! ## §3. Proofs. -/

/-- The member that is not part of the answer. -/
def proofKey : String := "proof"

/-- The proof that came with a response. -/
def proofOf? (version : Nat) : Response → Option Json
  | .replied reply => if version < envelopeVersion then none else reply.member? proofKey
  | _ => none

/-- **The result of a visit**, made at a version. -/
def normalise (mode : Mode) (version : Nat) : Response → Result
  | .skipped reason => .ofFailure (.skipped reason)
  | .failed failure => .ofFailure (.transport failure)
  | .probed capabilities fromCache => ⟨capabilities.nonNull?, none, none, fromCache⟩
  | .replied reply =>
      unwrap mode version (if version < envelopeVersion then reply else reply.without proofKey)

/-! ## §4. Laws. -/

theorem members?_without_isNone (j : Json) (key : String) :
    (j.without key).members?.isNone = j.members?.isNone := by
  cases j <;> rfl

/-- **Three members of an envelope are looked at**: the code, the output and the value. -/
theorem openEnvelope_congr (mode : Mode) {reply other : Json}
    (hmap : reply.members?.isNone = other.members?.isNone)
    (h : ∀ key ∈ ["code", "output", "value"], reply.member? key = other.member? key) :
    openEnvelope mode reply = openEnvelope mode other := by
  have hcode := h "code" (by decide)
  have houtput := h "output" (by decide)
  have hvalue := h "value" (by decide)
  simp only [openEnvelope, codeOf, valueOf, failureOf, textAt?, hmap, hcode, houtput, hvalue]

/-- An envelope is opened without looking at its proof. -/
theorem openEnvelope_without (mode : Mode) (reply : Json) :
    openEnvelope mode (reply.without proofKey) = openEnvelope mode reply := by
  refine openEnvelope_congr mode (members?_without_isNone reply proofKey) fun key hkey => ?_
  refine Json.member?_without fun heq => ?_
  rw [← heq] at hkey
  exact absurd hkey (by decide)

/-- A reply is read without its proof, which makes no difference. -/
theorem normalise_replied (mode : Mode) (version : Nat) (reply : Json) :
    normalise mode version (.replied reply) = unwrap mode version reply := by
  unfold normalise unwrap
  by_cases hbare : version < envelopeVersion
  · simp only [hbare, if_true]
  · simp only [hbare, if_false, openEnvelope_without]

/-- **The proof does not influence the result.** -/
theorem normalise_without_proof (mode : Mode) (version : Nat) (reply : Json)
    (h : envelopeVersion ≤ version) :
    normalise mode version (.replied (reply.without proofKey))
      = normalise mode version (.replied reply) := by
  have hversion : ¬version < envelopeVersion := Nat.not_lt.2 h
  rw [normalise_replied, normalise_replied]
  unfold unwrap
  rw [if_neg hversion, if_neg hversion, openEnvelope_without]

theorem nonNull?_ne_null {j v : Json} (h : j.nonNull? = some v) : v.isNull = false := by
  unfold Json.nonNull? at h
  by_cases hn : j.isNull = true
  · simp [hn] at h
  · simp only [hn, Bool.false_eq_true, if_false, Option.some.injEq] at h
    rw [← h]
    simpa using hn

/-- **A value that is there is never null.** -/
theorem unwrap_value_ne_null {mode : Mode} {version : Nat} {reply v : Json}
    (h : (unwrap mode version reply).value = some v) : v.isNull = false := by
  unfold unwrap at h
  split at h
  · exact nonNull?_ne_null h
  · unfold openEnvelope at h
    split at h
    · simp [Result.ofFailure] at h
    · dsimp only at h
      split at h
      · unfold valueOf at h
        cases hm : reply.member? "value" with
        | none => simp [hm] at h
        | some w =>
          simp only [hm, Option.bind_some] at h
          exact nonNull?_ne_null h
      · simp at h

/-- Whatever is wrong with a reply, the aggregate was not skipped. -/
theorem unwrap_not_skipped (mode : Mode) (version : Nat) (reply : Json)
    (reason : Call.SkipReason) : (unwrap mode version reply).failure ≠ some (.skipped reason) := by
  intro h
  unfold unwrap at h
  split at h
  · cases h
  · unfold openEnvelope at h
    split at h
    · cases h
    · dsimp only [failureOf] at h
      split at h <;> cases h

/-- **A result tells of a skip exactly where there was one.** -/
theorem skipped_iff (mode : Mode) (version : Nat) (response : Response)
    (reason : Call.SkipReason) :
    (normalise mode version response).failure = some (.skipped reason)
      ↔ response = .skipped reason := by
  cases response with
  | skipped reason' =>
      constructor
      · intro h
        cases h
        rfl
      · intro h
        cases h
        rfl
  | failed failure => exact ⟨nofun, nofun⟩
  | probed capabilities fromCache => exact ⟨nofun, nofun⟩
  | replied reply => exact ⟨fun h => absurd h (unwrap_not_skipped _ _ _ _), nofun⟩

end Federation.Answer
