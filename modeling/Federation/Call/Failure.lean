/-
  Federation.Call.Failure
  ───────────────────────
  **WHAT GOES WRONG WITH ONE AGGREGATE.**

  None of these ends a call to several aggregates: each is recorded with the
  aggregate that it happened to.  An aggregate was either not called at all
  (`SkipReason`), or the call did not get through, or its reply was no reply,
  or it answered with an error code.

  Main result: `code_isSome_iff` — only an answer of the aggregate has an
  error code.
-/
import Federation.Call.Operation
import Federation.Directory.Endpoint

namespace Federation.Call

/-! ## §1. Failures in transit. -/

/-- How a call failed to get through. -/
inductive TransportKind where
  /-- Nothing came back in time. -/
  | timeout
  /-- No connection could be made, or it broke. -/
  | socket
  /-- The aggregate's certificate is not trusted. -/
  | serverUntrusted
  /-- The aggregate does not accept the caller's certificate. -/
  | userCertificate
  | other
  deriving DecidableEq, Repr, Inhabited

/-- A call that did not get through. -/
structure TransportFailure where
  kind : TransportKind
  message : String
  deriving DecidableEq, Repr, Inhabited

/-- The phrases by which a failure is recognised, in the order in which they
are looked for. -/
def tellTales : List (TransportKind × List String) :=
  [(.timeout, ["timed out", "timeout"]),
    (.socket,
      ["connection refused", "errno", "no route to host", "name or service not known",
        "getaddrinfo", "connection reset"]),
    (.serverUntrusted, ["certificate verify failed", "unknown ca"]),
    (.userCertificate, ["bad certificate", "certificate expired", "certificate unknown"])]

/-- The kind of failure that a text tells of, case aside. -/
def kindOf (raw : String) : TransportKind :=
  match tellTales.find? fun (_, phrases) => phrases.any (Text.contains (Text.lower raw)) with
  | some (kind, _) => kind
  | none => .other

/-- What the operator is told. -/
def transportMessage (e : Endpoint) (raw : String) (timeout : Nat) : TransportKind → String
  | .timeout => "Timed out after " ++ toString timeout ++ " seconds waiting for " ++ e.label
  | .socket => "Failed to reach " ++ e.label ++ ": " ++ raw
  | .serverUntrusted => "Server certificate for " ++ e.label ++ " is not trusted: " ++ raw
  | .userCertificate => e.label ++ " rejected your certificate: " ++ raw
  | .other => raw

/-- **Recognise a failure by its text.** -/
def classify (e : Endpoint) (raw : String) (timeout : Nat) : TransportFailure :=
  ⟨kindOf raw, transportMessage e raw timeout (kindOf raw)⟩

/-! ## §2. Aggregates that are not called. -/

/-- Why an aggregate is not called. -/
inductive SkipReason where
  /-- It could not be asked for its version. -/
  | transport (failure : TransportFailure)
  /-- What it says of itself makes no sense. -/
  | malformedCapabilities (detail : String)
  | versionMismatch (desired : Nat) (supported : List Nat)
  | operationUnavailable (operation : Operation) (version : Nat)
  | unsupportedFormat (requested advertised : String)
  /-- The request has no form at the version that the aggregate speaks. -/
  | incompatibleRequest (version : Nat) (detail : String)
  | aborted
  deriving DecidableEq, Repr, Inhabited

/-- The words for a reason. -/
def SkipReason.text : SkipReason → String
  | .transport failure => "unreachable: " ++ failure.message
  | .malformedCapabilities detail => "unusable GetVersion reply: " ++ detail
  | .versionMismatch desired supported =>
      "does not speak AM API version " ++ toString desired ++ " (supports "
        ++ Text.commaList (supported.map toString) ++ ")"
  | .operationUnavailable o v =>
      o.name ++ " is not defined at AM API version " ++ toString v
  | .unsupportedFormat requested advertised =>
      "does not advertise resource description format " ++ requested ++ " (available: "
        ++ advertised ++ ")"
  | .incompatibleRequest v detail =>
      "request does not fit AM API version " ++ toString v ++ ": " ++ detail
  | .aborted => "cancelled before contact"

/-! ## §3. Failures. -/

/-- What kept one aggregate from giving a result. -/
inductive Failure where
  | skipped (reason : SkipReason)
  | transport (failure : TransportFailure)
  | malformedResponse (detail : String)
  /-- An error code, the family and the code of the aggregate's own software,
  and its words. -/
  | reported (code : Int) (family : Option String) (familyCode : Option Int)
      (output : Option String)
  deriving DecidableEq, Repr, Inhabited

/-- How a failure, or an unclean result, is classified. -/
inductive ErrorKind where
  | transportError
  | versionMismatch
  | malformedResponse
  | amReportedError
  /-- A resource that was asked for is not in the reply. -/
  | resourceMissing
  /-- A resource in the reply has an error. -/
  | resourceFailed
  | aborted
  deriving DecidableEq, Repr

namespace Failure

/-- The class of a failure. -/
def kind : Failure → ErrorKind
  | .skipped (.transport _) => .transportError
  | .skipped (.malformedCapabilities _) => .malformedResponse
  | .skipped .aborted => .aborted
  | .skipped (.versionMismatch _ _) => .versionMismatch
  | .skipped (.operationUnavailable _ _) => .versionMismatch
  | .skipped (.unsupportedFormat _ _) => .versionMismatch
  | .skipped (.incompatibleRequest _ _) => .versionMismatch
  | .transport _ => .transportError
  | .malformedResponse _ => .malformedResponse
  | .reported _ _ _ _ => .amReportedError

/-- The error code, where the aggregate gave one. -/
def code : Failure → Option Int
  | .reported code _ _ _ => some code
  | _ => none

/-- Family and code of the aggregate's software, in parentheses. -/
def familyText : Option String → Option Int → String
  | some family, some code => " (" ++ family ++ " " ++ toString code ++ ")"
  | none, some code => " (AM code " ++ toString code ++ ")"
  | some family, none => " (" ++ family ++ ")"
  | none, none => ""

/-- The aggregate's words after a colon, if there are any. -/
def outputText (output : Option String) : String :=
  match output with
  | none => ""
  | some s => if s.isEmpty then "" else ": " ++ s

/-- The words for a failure. -/
def text : Failure → String
  | .skipped reason => "skipped: " ++ reason.text
  | .transport failure => failure.message
  | .malformedResponse detail => "malformed reply: " ++ detail
  | .reported code family familyCode output =>
      "error code " ++ toString code ++ familyText family familyCode ++ outputText output

/-- Only an answer of the aggregate has an error code. -/
theorem code_isSome_iff (f : Failure) :
    f.code.isSome = true ↔ ∃ c fam fc out, f = .reported c fam fc out := by
  cases f <;> simp [code]

end Failure

end Federation.Call
