/-
  Federation.ResourceFormat
  ─────────────────────────
  **RESOURCE DESCRIPTION FORMATS.**

  Aggregates describe resources in formats, each a kind and a version, such
  as `GENI` and `3`.  A format is written with a colon or a blank between the
  two; the colon counts where both are there.  Case does not count when
  formats are compared.

  Main result: `agrees_refl` — a format agrees with itself.
-/
import Federation.Text.Blank
import Federation.Text.Fold
import Federation.Text.Split

namespace Federation

/-- A kind of resource description and its version. -/
structure ResourceFormat where
  kind : String
  version : String
  deriving DecidableEq, Repr, Inhabited

/-- A text that is no format. -/
structure ResourceFormatFault where
  text : String
  deriving DecidableEq, Repr

/-- The words for the fault. -/
def ResourceFormatFault.message (f : ResourceFormatFault) : String :=
  "resource description format '" ++ f.text ++ "' must look like TYPE:VERSION"

namespace ResourceFormat

/-- Kind and version, as they are parted. -/
def parts? (s : String) : Option (String × String) :=
  (Text.splitOnce (· == ':') s).or (Text.splitOnce Text.isBlank s)

/-- **Read a format.**  Neither part may be blank. -/
def read (s : String) : Except ResourceFormatFault ResourceFormat :=
  match parts? (Text.trim s) with
  | none => .error ⟨s⟩
  | some (kind, version) =>
      let kind := Text.trim kind
      let version := Text.trim version
      if kind.isEmpty || version.isEmpty then .error ⟨s⟩ else .ok ⟨kind, version⟩

/-- The format as it is written. -/
def text (f : ResourceFormat) : String := f.kind ++ " " ++ f.version

/-- Equality without regard to case. -/
def agrees (a b : ResourceFormat) : Bool :=
  Text.sameFolded a.kind b.kind && Text.sameFolded a.version b.version

theorem agrees_refl (f : ResourceFormat) : f.agrees f = true := by
  simp [agrees, Text.sameFolded_refl]

theorem agrees_symm {a b : ResourceFormat} (h : a.agrees b = true) : b.agrees a = true := by
  simp only [agrees, Bool.and_eq_true] at h ⊢
  exact ⟨Text.sameFolded_symm h.1, Text.sameFolded_symm h.2⟩

end ResourceFormat

end Federation
