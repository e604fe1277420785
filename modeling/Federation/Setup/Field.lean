/-
  Federation.Setup.Field
  ──────────────────────
  **THE FIELDS OF THE CONFIGURATION.**

  Whatever the configuration comes from, each field has a name and takes
  values of one kind.  A value of another kind is a fault, null among them
  except where a field may be left out; a name that no field has is passed
  over; a field that no value is given for keeps the one it had.

  The fields have an order as well, in which a list of values gives them.

  Main results: `ofJson_empty` — without values nothing changes;
  `put?_value` — a field takes the value that it holds, as long as that is
  in range.
-/
import Federation.Json.Basic
import Federation.Setup.Config

namespace Federation.Setup

open Directory (Directive)

/-! ## §1. Faults. -/

/-- Why there is no configuration. -/
inductive ConfigFault where
  /-- The values are neither named nor listed. -/
  | noFields
  /-- A list has more values than there are fields. -/
  | surplusValues
  /-- The value of this field is of another kind. -/
  | unsuitable (field : String)
  /-- The file builds on another one. -/
  | fileExtends
  /-- The file holds an integer that does not fit sixty-four bits, signed. -/
  | fileInteger (field : String)
  /-- This argument has no place on the command line. -/
  | argument (text : String)
  deriving DecidableEq, Repr

/-! ## §2. Kinds of values. -/

namespace Value

/-- The members of a list, each of them of the kind that `read?` reads. -/
def list? {α : Type} (read? : Json → Option α) (j : Json) : Option (List α) :=
  j.items?.bind (·.mapM read?)

/-- Null, or a value of the kind. -/
def optional? {α : Type} (read? : Json → Option α) (j : Json) : Option (Option α) :=
  if j.isNull then some none else (read? j).map some

/-- A layout of log lines, by its name; also as an object whose one member
has that name and holds null. -/
def logFormat? : Json → Option LogFormat
  | .string s => LogFormat.ofName? s
  | .object [(s, .null)] => LogFormat.ofName? s
  | _ => none

/-- A directive, by member or in order. -/
def directive? : Json → Option Directive
  | .array [.string nickname, .string urn, .string url] => some ⟨nickname, urn, url⟩
  | j => do
      let nickname ← (← j.member? "nickname").text?
      let urn ← (← j.member? "urn").text?
      let url ← (← j.member? "url").text?
      some ⟨nickname, urn, url⟩

/-- A directive as a value. -/
def ofDirective (d : Directive) : Json :=
  .ofMembers [("nickname", .string d.nickname), ("urn", .string d.urn), ("url", .string d.url)]

/-- A resource format, by member or in order. -/
def format? : Json → Option ResourceFormat
  | .array [.string kind, .string version] => some ⟨kind, version⟩
  | j => do
      let kind ← (← j.member? "type").text?
      let version ← (← j.member? "version").text?
      some ⟨kind, version⟩

/-- A resource format as a value. -/
def ofFormat (f : ResourceFormat) : Json :=
  .ofMembers [("type", .string f.kind), ("version", .string f.version)]

/-- A number of thirty-two bits. -/
def word? : Json → Option Nat := Json.natBelow? Number.wordBound

/-- A number of sixty-four bits. -/
def long? : Json → Option Nat := Json.natBelow? Number.longBound

/-- A list of written values is read back. -/
theorem list?_map {α : Type} {read? : Json → Option α} {write : α → Json}
    (h : ∀ a, read? (write a) = some a) (as : List α) :
    list? read? (.array (as.map write)) = some as := by
  simp only [list?, Json.items?, Option.bind_some]
  induction as with
  | nil => rfl
  | cons a as ih => simp [h, ih]

/-- A number in range is read back. -/
theorem natBelow?_nat {bound n : Nat} (h : n < bound) :
    (Json.nat n).natBelow? bound = some n := by
  have : (n : Int) < bound := by omega
  simp [Json.nat, Json.natBelow?, this]

/-- A number of thirty-two bits is read back. -/
theorem word?_nat {n : Nat} (h : n < Number.wordBound) : word? (Json.nat n) = some n := natBelow?_nat h

/-- A number of sixty-four bits is read back. -/
theorem long?_nat {n : Nat} (h : n < Number.longBound) : long? (Json.nat n) = some n := natBelow?_nat h

/-- A directive is read back. -/
theorem directive?_ofDirective (d : Directive) : directive? (ofDirective d) = some d := by
  simp [directive?, ofDirective, Json.ofMembers, Keyed.ofPairs, Keyed.get?_insert, Json.text?]


/-- A resource format is read back. -/
theorem format?_ofFormat (f : ResourceFormat) : format? (ofFormat f) = some f := by
  simp [format?, ofFormat, Json.ofMembers, Keyed.ofPairs, Keyed.get?_insert, Json.text?]

/-- A layout of log lines is read back. -/
theorem logFormat?_name (f : LogFormat) : logFormat? (.string f.name) = some f :=
  LogFormat.ofName?_name f

end Value

/-! ## §3. Fields. -/

/-- A field of the configuration. -/
structure Field where
  name : String
  /-- Put a value into the field, if it is of the field's kind. -/
  put? : Json → Config → Option Config
  /-- The value in the field. -/
  value : Config → Json

namespace Field

def logFilter : Field where
  name := "log_filter"
  put? j c := j.text?.map fun v => { c with logFilter := v }
  value c := .string c.logFilter

def logFormat : Field where
  name := "log_format"
  put? j c := (Value.logFormat? j).map fun v => { c with logFormat := v }
  value c := .string c.logFormat.name

def version : Field where
  name := "api_version"
  put? j c := (Value.word? j).map fun v => { c with version := v }
  value c := .nat c.version

def explicit : Field where
  name := "explicit_api_version"
  put? j c := j.flag?.map fun v => { c with explicit := v }
  value c := .bool c.explicit

def developer : Field where
  name := "developer_mode"
  put? j c := j.flag?.map fun v => { c with developer := v }
  value c := .bool c.developer

def cacheFile : Field where
  name := "version_cache_path"
  put? j c := j.text?.map fun v => { c with cacheFile := v }
  value c := .string c.cacheFile

def cacheMaxAge : Field where
  name := "version_cache_max_age_secs"
  put? j c := (Value.long? j).map fun v => { c with cacheMaxAge := v }
  value c := .nat c.cacheMaxAge

def ignoreCache : Field where
  name := "no_version_cache"
  put? j c := j.flag?.map fun v => { c with ignoreCache := v }
  value c := .bool c.ignoreCache

def forceRefresh : Field where
  name := "force_refresh"
  put? j c := j.flag?.map fun v => { c with forceRefresh := v }
  value c := .bool c.forceRefresh

def probeTimeout : Field where
  name := "probe_timeout_secs"
  put? j c := (Value.long? j).map fun v => { c with probeTimeout := v }
  value c := .nat c.probeTimeout

def callTimeout : Field where
  name := "call_timeout_secs"
  put? j c := (Value.long? j).map fun v => { c with callTimeout := v }
  value c := .nat c.callTimeout

def workerLimit : Field where
  name := "worker_limit"
  put? j c := (Value.long? j).map fun v => { c with workerLimit := v }
  value c := .nat c.workerLimit

def nicknames : Field where
  name := "aggregate_nicknames"
  put? j c := (Value.list? Value.directive? j).map fun v => { c with nicknames := v }
  value c := .array (c.nicknames.map Value.ofDirective)

def aggregates : Field where
  name := "default_aggregates"
  put? j c := (Value.list? Json.text? j).map fun v => { c with aggregates := v }
  value c := .texts c.aggregates

def preferredFormat : Field where
  name := "preferred_rspec"
  put? j c := (Value.optional? Value.format? j).map fun v => { c with preferredFormat := v }
  value c := (c.preferredFormat.map Value.ofFormat).getD .null

/-- The fields in their order. -/
def all : List Field :=
  [logFilter, logFormat, version, explicit, developer, cacheFile, cacheMaxAge, ignoreCache,
    forceRefresh, probeTimeout, callTimeout, workerLimit, nicknames, aggregates,
    preferredFormat]

/-- Put a value into the field, or say that it does not fit. -/
def put (f : Field) (c : Config) (j : Json) : Except ConfigFault Config :=
  match f.put? j c with
  | some c => .ok c
  | none => .error (.unsuitable f.name)

end Field

namespace Config

/-! ## §4. Configurations and values. -/

/-- Put named values into their fields. -/
def withMembers (c : Config) (members : Keyed String Json) : Except ConfigFault Config :=
  Field.all.foldlM (fun c f =>
    match members.get? f.name with
    | none => .ok c
    | some j => f.put c j) c

/-- Put values into the fields in their order. -/
def withItems (c : Config) (items : List Json) : Except ConfigFault Config :=
  if Field.all.length < items.length then .error .surplusValues
  else (Field.all.zip items).foldlM (fun c p => p.1.put c p.2) c

/-- **Read a configuration**; what it leaves open stays as it is in `c`. -/
def ofJson (c : Config) : Json → Except ConfigFault Config
  | .object members => c.withMembers members
  | .array items => c.withItems items
  | _ => .error .noFields

/-- The fields with their values. -/
def members (c : Config) : List (String × Json) := Field.all.map fun f => (f.name, f.value c)

/-! ## §5. Laws. -/

/-- **Without values nothing changes.** -/
theorem ofJson_empty (c : Config) : c.ofJson (.object []) = .ok c := rfl

/-- No two fields have one name. -/
theorem names_nodup : (Field.all.map Field.name).Nodup := by decide

/-- The numbers fit their fields. -/
def InRange (c : Config) : Prop :=
  c.version < Number.wordBound ∧ c.cacheMaxAge < Number.longBound
    ∧ c.probeTimeout < Number.longBound ∧ c.callTimeout < Number.longBound
    ∧ c.workerLimit < Number.longBound

/-- **A field takes the value that it holds.** -/
theorem put?_value {c : Config} (h : c.InRange) {f : Field} (hf : f ∈ Field.all) :
    f.put? (f.value c) c = some c := by
  obtain ⟨h1, h2, h3, h4, h5⟩ := h
  have format : Value.optional? Value.format? (Field.preferredFormat.value c)
      = some c.preferredFormat := by
    simp only [Field.preferredFormat]
    cases c.preferredFormat with
    | none => rfl
    | some f =>
        show (Value.format? (Value.ofFormat f)).map some = some (some f)
        rw [Value.format?_ofFormat]
        rfl
  have directives : Value.list? Value.directive? (Field.nicknames.value c)
      = some c.nicknames := Value.list?_map Value.directive?_ofDirective c.nicknames
  have texts : Value.list? Json.text? (Field.aggregates.value c) = some c.aggregates :=
    @Value.list?_map String Json.text? Json.string (fun _ => rfl) c.aggregates
  simp only [Field.all, List.mem_cons, List.not_mem_nil, or_false] at hf
  rcases hf with rfl | rfl | rfl | rfl | rfl | rfl | rfl | rfl | rfl | rfl | rfl | rfl | rfl
    | rfl | rfl
  · rfl
  · simp [Field.logFormat, Value.logFormat?_name]
  · simp only [Field.version, Value.word?_nat h1, Option.map_some]
  · rfl
  · rfl
  · rfl
  · simp only [Field.cacheMaxAge, Value.long?_nat h2, Option.map_some]
  · rfl
  · rfl
  · simp only [Field.probeTimeout, Value.long?_nat h3, Option.map_some]
  · simp only [Field.callTimeout, Value.long?_nat h4, Option.map_some]
  · simp only [Field.workerLimit, Value.long?_nat h5, Option.map_some]
  · show (Value.list? Value.directive? (Field.nicknames.value c)).map _ = some c
    rw [directives]
    rfl
  · show (Value.list? Json.text? (Field.aggregates.value c)).map _ = some c
    rw [texts]
    rfl
  · show (Value.optional? Value.format? (Field.preferredFormat.value c)).map _ = some c
    rw [format]
    rfl

end Config

end Federation.Setup
