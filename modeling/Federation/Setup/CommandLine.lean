/-
  Federation.Setup.CommandLine
  ────────────────────────────
  **SETTINGS FROM THE COMMAND LINE.**

  Every field has a flag: two hyphens and the field's name with hyphens for
  underscores.  A switch takes no value and sets its field by being there;
  a switch that is not there sets its field as well, to false.  Any other
  flag takes one value, after an equals sign or as the next argument; such
  an argument does not start with a hyphen unless it is one.

  Flags of lists may be repeated, each time adding one item; no other flag
  may.  There are no arguments besides, but two hyphens may stand alone at
  the end.

  Main results: `layer_nil` — without arguments only the switches are set;
  `occurrences_switch` — a switch is one argument.
-/
import Federation.Setup.Field

namespace Federation.Setup.CommandLine

open Directory (Directive)

/-! ## §1. Flags. -/

/-- What a flag takes. -/
inductive FlagKind where
  | switch
  | single (read? : String → Option Json)
  | many (read? : String → Option Json)

/-- A flag. -/
structure Flag where
  field : Field
  kind : FlagKind

/-- The flag's name without its hyphens before it. -/
def Flag.name (f : Flag) : String :=
  String.ofList (f.field.name.toList.map fun c => if c = '_' then '-' else c)

/-- Any text. -/
def text? (s : String) : Option Json := some (.string s)

/-- The name of a layout of log lines, in any case. -/
def logFormat? (s : String) : Option Json := (LogFormat.read? s).map fun f => .string f.name

/-- A number of thirty-two bits. -/
def word? (s : String) : Option Json :=
  ((Text.signed? s).filter fun i => 0 ≤ i ∧ i < (Number.wordBound : Int)).map .int

/-- A number of sixty-four bits. -/
def long? (s : String) : Option Json := (Text.unsigned? Number.longBound s).map .nat

/-- A directive. -/
def directive? (s : String) : Option Json :=
  (Directive.read s).toOption.map Value.ofDirective

/-- A resource format. -/
def format? (s : String) : Option Json :=
  (ResourceFormat.read s).toOption.map Value.ofFormat

/-- The flags in the order of their fields. -/
def flags : List Flag :=
  [⟨.logFilter, .single text?⟩, ⟨.logFormat, .single logFormat?⟩, ⟨.version, .single word?⟩,
    ⟨.explicit, .switch⟩, ⟨.developer, .switch⟩, ⟨.cacheFile, .single text?⟩,
    ⟨.cacheMaxAge, .single long?⟩, ⟨.ignoreCache, .switch⟩, ⟨.forceRefresh, .switch⟩,
    ⟨.probeTimeout, .single long?⟩, ⟨.callTimeout, .single long?⟩,
    ⟨.workerLimit, .single long?⟩, ⟨.nicknames, .many directive?⟩,
    ⟨.aggregates, .many text?⟩, ⟨.preferredFormat, .single format?⟩]

/-- The flag of a name. -/
def flag? (name : String) : Option Flag := flags.find? fun f => f.name == name

/-! ## §2. From arguments to occurrences. -/

/-- A flag as it occurs, with the value that goes with it. -/
structure Occurrence where
  flag : Flag
  value : Option String

/-- Whether an argument cannot be the value of the flag before it. -/
def startsFlag (s : String) : Bool := s.toList.head? == some '-' && s != "-"

/-- Name and value of an argument that starts with two hyphens. -/
def nameAndValue (body : String) : String × Option String :=
  match Text.splitOnce (· == '=') body with
  | some (name, value) => (name, some value)
  | none => (body, none)

/-- The flag that an argument names, and the value in the argument. -/
def opening? (argument : String) : Option (Flag × Option String) := do
  let (name, value) := nameAndValue (← Text.dropStart? "--" argument)
  return (← flag? name, value)

/-- **The flags that arguments hold.** -/
def occurrences : List String → Except ConfigFault (List Occurrence)
  | [] => .ok []
  | argument :: rest =>
      -- The two hyphens end the flags, and nothing may follow the flags.
      if argument = "--" && rest.isEmpty then .ok []
      else match opening? argument with
        | none => .error (.argument argument)
        | some (flag, value) =>
            match flag.kind, value, rest with
            | .switch, none, rest => (occurrences rest).map (⟨flag, none⟩ :: ·)
            | .switch, some _, _ => .error (.argument argument)
            | _, some v, rest => (occurrences rest).map (⟨flag, some v⟩ :: ·)
            | _, none, [] => .error (.argument argument)
            | _, none, v :: rest =>
                if startsFlag v then .error (.argument argument)
                else (occurrences rest).map (⟨flag, some v⟩ :: ·)
  termination_by arguments => arguments.length

/-! ## §3. From occurrences to settings. -/

/-- The values with which a flag occurs. -/
def valuesOf (os : List Occurrence) (f : Flag) : List (Option String) :=
  (os.filter fun o => o.flag.name == f.name).map Occurrence.value

/-- One value as it is read. -/
def readValue (f : Flag) (read? : String → Option Json) (value : Option String) :
    Except ConfigFault Json :=
  match value.bind read? with
  | some j => .ok j
  | none => .error (.unsuitable f.field.name)

/-- What a flag sets, by the values with which it occurs. -/
def settingOf (f : Flag) (values : List (Option String)) : Except ConfigFault (Option Json) :=
  match f.kind, values with
  -- A switch that is not there is not silent: it sets its field to false.
  | .switch, [] => .ok (some (.bool false))
  | .switch, [_] => .ok (some (.bool true))
  | .single _, [] => .ok none
  | .single read?, [v] => (readValue f read? v).map some
  | .many _, [] => .ok none
  | .many read?, vs => (vs.mapM (readValue f read?)).map fun js => some (.array js)
  | _, _ => .error (.argument f.name)

/-- **What the arguments set.** -/
def layer (arguments : List String) : Except ConfigFault (Keyed String Json) := do
  let os ← occurrences arguments
  let settings ← flags.mapM fun f => do
    let setting ← settingOf f (valuesOf os f)
    return setting.map fun v => (f.field.name, v)
  return Keyed.ofPairs (settings.filterMap id)

/-! ## §4. Laws. -/

/-- The flags are those of all fields. -/
theorem map_field_flags : flags.map (·.field.name) = Field.all.map Field.name := rfl

/-- No two flags have one name. -/
theorem flagNames_nodup : (flags.map Flag.name).Nodup := by decide

/-- **Without arguments only the switches are set**, all of them to false. -/
theorem layer_nil : layer [] = .ok [("developer_mode", .bool false),
    ("explicit_api_version", .bool false), ("force_refresh", .bool false),
    ("no_version_cache", .bool false)] := by
  have nothing : occurrences [] = .ok [] := by rw [occurrences]
  rw [layer, nothing]
  rfl

/-- **A switch is one argument.** -/
theorem occurrences_switch {argument : String} {f : Flag} (rest : List String)
    (hne : argument ≠ "--") (h : opening? argument = some (f, none)) (hk : f.kind = .switch) :
    occurrences (argument :: rest) = (occurrences rest).map (⟨f, none⟩ :: ·) := by
  rw [occurrences]
  simp [hne, h, hk]

end Federation.Setup.CommandLine
