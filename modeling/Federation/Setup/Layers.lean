/-
  Federation.Setup.Layers
  ───────────────────────
  **THE CONFIGURATION, LAYER BY LAYER.**

  What is configured comes from a file, the environment and the command
  line, each of them over the one before it, and all over what holds where
  nothing is set.  Lists do not hide each other: what the layers list is
  joined, in the order of the layers, and a single value is a list of one.

  A file stands on its own, and its integers fit sixty-four bits, signed.

  Main results: `get?_merged_nicknames`, `get?_merged_aggregates` — lists are
  joined; `gathered_cons_of_absent` — a layer without a list adds nothing.
-/
import Federation.Setup.CommandLine
import Federation.Setup.Environment

namespace Federation.Setup

/-- The fields that one layer sets. -/
abbrev Layer := Keyed String Json

/-! ## §1. One layer. -/

/-- All that a configuration is made from. -/
structure Origin where
  /-- The members of the file, where there is one. -/
  file : Option Layer
  /-- The variables of the environment. -/
  environment : List (String × String)
  /-- The arguments of the command line. -/
  arguments : List String

mutual

/-- Whether each integer of a value fits sixty-four bits, signed. -/
def fitsFile : Json → Bool
  | .number n => match n with
    | .integer i => Number.fitsSigned i
    | .real _ => true
  | .array items => itemsFitFile items
  | .object members => membersFitFile members
  | _ => true

/-- Whether each integer of the items fits. -/
def itemsFitFile : List Json → Bool
  | [] => true
  | j :: js => fitsFile j && itemsFitFile js

/-- Whether each integer of the members fits. -/
def membersFitFile : List (String × Json) → Bool
  | [] => true
  | (_, j) :: ms => fitsFile j && membersFitFile ms

end

/-- What a file sets. -/
def fileLayer (members : Layer) : Except ConfigFault Layer :=
  if members.hasKey "extends" then .error .fileExtends
  else match members.find? fun m => !fitsFile m.2 with
    | some (name, _) => .error (.fileInteger name)
    | none => .ok members

/-! ## §2. All layers. -/

/-- What a value adds to a list. -/
def itemsOf : Json → List Json
  | .array items => items
  | j => [j]

/-- What the layers list in a field, joined. -/
def gathered (layers : List Layer) (name : String) : List Json :=
  layers.flatMap fun l => ((l.get? name).map itemsOf).getD []

/-- The fields that the layers set, the later layers over the earlier. -/
def merged (layers : List Layer) : Layer :=
  ((layers.foldl Json.overlayMembers []).insert Field.nicknames.name
    (.array (gathered layers Field.nicknames.name))).insert Field.aggregates.name
      (.array (gathered layers Field.aggregates.name))

/-- **Make a configuration** from all that is set.  Snapshots are remembered
in `cacheFile` unless another file is set, and the names of variables start
with `start`. -/
def Config.load (cacheFile start : String) (o : Origin) : Except ConfigFault Config := do
  let file ← fileLayer (o.file.getD [])
  let flags ← CommandLine.layer o.arguments
  (Config.builtin cacheFile).withMembers
    (merged [file, Environment.layer start o.environment, flags])

/-! ## §3. Laws. -/

/-- **The layers' nicknames are joined.** -/
theorem get?_merged_nicknames (layers : List Layer) :
    (merged layers).get? Field.nicknames.name
      = some (.array (gathered layers Field.nicknames.name)) := by
  have h : Field.aggregates.name ≠ Field.nicknames.name := by decide
  rw [merged, Keyed.get?_insert_ne _ _ h, Keyed.get?_insert_self]

/-- **The layers' aggregates are joined.** -/
theorem get?_merged_aggregates (layers : List Layer) :
    (merged layers).get? Field.aggregates.name
      = some (.array (gathered layers Field.aggregates.name)) := by
  rw [merged, Keyed.get?_insert_self]

/-- A layer that does not mention a list adds nothing to it. -/
theorem gathered_cons_of_absent {l : Layer} {name : String} (layers : List Layer)
    (h : l.get? name = none) : gathered (l :: layers) name = gathered layers name := by
  simp [gathered, h]

end Federation.Setup
