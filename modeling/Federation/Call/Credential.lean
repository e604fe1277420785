/-
  Federation.Call.Credential
  ──────────────────────────
  **CREDENTIALS.**

  A credential is a signed document of some family.  Before version 3 the
  bare document is sent, from version 3 on the document with its family and
  version.
-/
import Federation.Call.Operation
import Federation.Json.Basic

namespace Federation

/-- A signed document that authorises calls. -/
structure Credential where
  family : String
  version : String
  document : String
  deriving DecidableEq, Repr, Inhabited

namespace Credential

/-- A document of the slice federation's own family. -/
def sfa (document : String) : Credential := ⟨"geni_sfa", "3", document⟩

/-- The credential as it is sent at a protocol version. -/
def wire (c : Credential) (version : Nat) : Json :=
  if Operation.isModern version then
    .ofMembers [("geni_type", .string c.family), ("geni_version", .string c.version),
      ("geni_value", .string c.document)]
  else .string c.document

end Credential

end Federation
