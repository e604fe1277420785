/-
  Federation.Setup.LogFormat
  ──────────────────────────
  **LAYOUTS OF LOG LINES.**

  A line is either one JSON object or a compact text for people to read.
-/
import Federation.Text.Fold

namespace Federation.Setup

/-- The layout of a log line. -/
inductive LogFormat where
  | json
  | compact
  deriving DecidableEq, Repr, Inhabited

namespace LogFormat

/-- The name of a layout. -/
def name : LogFormat → String
  | .json => "json"
  | .compact => "compact"

/-- The layout of exactly this name. -/
def ofName? (s : String) : Option LogFormat :=
  [LogFormat.json, LogFormat.compact].find? fun f => f.name == s

/-- The layout of this name in any case. -/
def read? (s : String) : Option LogFormat :=
  [LogFormat.json, LogFormat.compact].find? fun f => Text.sameFolded f.name s

/-- What is said of a name that no layout has. -/
def unknownMessage : String := "Matching variant not found"

/-- Every name is read back. -/
theorem ofName?_name (f : LogFormat) : ofName? f.name = some f := by
  cases f <;> decide

end LogFormat

end Federation.Setup
