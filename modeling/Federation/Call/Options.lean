/-
  Federation.Call.Options
  ───────────────────────
  **OPTIONS OF A CALL.**

  The caller says what the call is meant to do; which options that takes, and
  whether they are legal, depends on the operation and the version.  In
  strict mode an option that is not legal is a fault, in relaxed mode it is
  sent with a warning.  The caller's own options come last and win.

  A version 1 call other than the listing of resources has no place for
  options at all; that they are dropped is said in a warning.

  Main results:
    * `grant_of_legal` — a legal option is set without a word, in either
      mode;
    * `grant_strict` — in strict mode what is set is legal.
-/
import Federation.Call.Prepared
import Federation.Mode
import Federation.ResourceFormat

namespace Federation.Call

/-! ## §1. Which options there are. -/

/-- The options that the library sets itself. -/
inductive OptionKind where
  | bestEffort
  | endTime
  | startTime
  | format
  | available
  | compressed
  | slice
  | extendAsLongAsPossible
  | users
  | speakingFor
  deriving DecidableEq, Repr

namespace OptionKind

/-- The name of an option on the wire. -/
def name (version : Nat) : OptionKind → String
  | .bestEffort => "geni_best_effort"
  | .endTime => "geni_end_time"
  | .startTime => "geni_start_time"
  | .format => if version < 2 then "rspec_version" else "geni_rspec_version"
  | .available => "geni_available"
  | .compressed => "geni_compressed"
  | .slice => "geni_slice_urn"
  | .extendAsLongAsPossible => "geni_extend_alap"
  | .users => "geni_users"
  | .speakingFor => "geni_speaking_for"

/-- **Where an option is legal.** -/
def isLegal (o : Operation) (version : Nat) : OptionKind → Bool
  | .bestEffort => Operation.isModern version && o.kind == .multiResource
  | .endTime => Operation.isModern version && [Operation.allocate, .provision].contains o
  | .startTime => Operation.isModern version && o == .allocate
  | .format => o.takesFormat
  | .available => o == .listResources
  | .compressed => o == .listResources
  | .slice => !Operation.isModern version && o == .listResources
  | .extendAsLongAsPossible => Operation.isModern version && o == .renew
  | .users => Operation.isModern version && o == .provision
  | .speakingFor => true

end OptionKind

/-- What a call is meant to do, whatever the version. -/
structure Intent where
  /-- Do what can be done rather than all or nothing. -/
  bestEffort : Bool
  endTime : Option String
  startTime : Option String
  /-- The format that resources are to be described in. -/
  format : Option ResourceFormat
  speakingFor : Option String
  availableOnly : Bool
  compressed : Bool
  /-- Where the time asked for is refused, renew for as long as possible. -/
  extendAsLongAsPossible : Bool
  /-- Options as they are to be sent. -/
  overrides : Options
  deriving Inhabited

/-- A call with no special wishes. -/
def Intent.plain : Intent := ⟨false, none, none, none, none, false, false, false, []⟩

/-- Why no options can be made. -/
inductive OptionFault where
  | notApplicable (option : String) (operation : Operation) (version : Nat)
  | invalidTime (option value : String) (fault : Time.TimeFault)
  | unadvertised (requested advertised : String)
  deriving DecidableEq, Repr

/-- The words for a fault. -/
def OptionFault.message : OptionFault → String
  | .notApplicable option o v =>
      "option " ++ option ++ " is not supported by " ++ o.name ++ " at AM API version "
        ++ toString v
  | .invalidTime option value fault =>
      "option " ++ option ++ " has an unparseable time '" ++ value ++ "': " ++ fault.message
  | .unadvertised requested advertised =>
      "resource description format " ++ requested ++ " is not advertised (available: "
        ++ advertised ++ ")"

/-- Whether a time leaves the calendar. -/
def OptionFault.leavesCalendar : OptionFault → Bool
  | .invalidTime _ _ .outOfCalendar => true
  | _ => false

/-! ## §2. Setting one option. -/

/-- Options and the warnings that came up. -/
structure Draft where
  options : Options
  warnings : List String
  deriving Inhabited

namespace Draft

/-- No options, no warnings. -/
def empty : Draft := ⟨[], []⟩

/-- Set an option. -/
def set (d : Draft) (name : String) (value : Json) : Draft :=
  { d with options := Keyed.insert d.options name value }

/-- Add a warning. -/
def warn (d : Draft) (warning : String) : Draft :=
  { d with warnings := d.warnings ++ [warning] }

end Draft

/-- What options are made for. -/
structure Context where
  mode : Mode
  operation : Operation
  version : Nat

/-- Said of an option that relaxed mode sends although it is not legal. -/
def passedAnyway (c : Context) (option : String) : String :=
  option ++ " is not supported by " ++ c.operation.name ++ " at AM API version "
    ++ toString c.version ++ "; passing it anyway"

/-- **Set one option** if it is legal, or if the mode lets it pass. -/
def grant (c : Context) (kind : OptionKind) (value : Json) (d : Draft) :
    Except OptionFault Draft :=
  let name := kind.name c.version
  if kind.isLegal c.operation c.version then .ok (d.set name value)
  else match c.mode with
    | .strict => .error (.notApplicable name c.operation c.version)
    | .relaxed => .ok ((d.warn (passedAnyway c name)).set name value)

theorem grant_of_legal {c : Context} {kind : OptionKind} (value : Json) (d : Draft)
    (h : kind.isLegal c.operation c.version = true) :
    grant c kind value d = .ok (d.set (kind.name c.version) value) := by
  simp [grant, h]

theorem grant_strict {c : Context} {kind : OptionKind} {value : Json} {d d' : Draft}
    (hm : c.mode = .strict) (h : grant c kind value d = .ok d') :
    kind.isLegal c.operation c.version = true := by
  by_cases hl : kind.isLegal c.operation c.version = true
  · exact hl
  · simp [grant, hl, hm] at h

/-! ## §3. The wishes of a call. -/

/-- An option that the caller wants, and its value. -/
structure Wish where
  kind : OptionKind
  value : Except OptionFault Json

/-- Set what is wished for; a value that cannot be made is the first
fault. -/
def Wish.grant (c : Context) (d : Draft) (w : Wish) : Except OptionFault Draft :=
  match w.value with
  | .error fault => .error fault
  | .ok value => Call.grant c w.kind value d

/-- A time in its wire form. -/
def timeValue (c : Context) (kind : OptionKind) (text : String) : Except OptionFault Json :=
  match Time.normalise text with
  | .ok s => .ok (.string s)
  | .error fault => .error (.invalidTime (kind.name c.version) text fault)

/-- A wish that is there only if a flag is. -/
def flagWish (flag : Bool) (kind : OptionKind) : List Wish :=
  if flag then [⟨kind, .ok (.bool true)⟩] else []

/-- A wish for a time. -/
def timeWish (c : Context) (time : Option String) (kind : OptionKind) : List Wish :=
  time.toList.map fun text => ⟨kind, timeValue c kind text⟩

/-- A wish for a value. -/
def valueWish (value : Option Json) (kind : OptionKind) : List Wish :=
  value.toList.map fun v => ⟨kind, .ok v⟩

/-- The wishes before the format. -/
def earlyWishes (c : Context) (i : Intent) : List Wish :=
  flagWish i.bestEffort .bestEffort
    ++ timeWish c i.endTime .endTime
    ++ timeWish c i.startTime .startTime

/-- The wishes after the format.  The slice is wished for by a listing of
resources alone, users only where they are legal. -/
def lateWishes (c : Context) (i : Intent) (a : Arguments) : List Wish :=
  flagWish i.availableOnly .available
    ++ flagWish i.compressed .compressed
    ++ valueWish (if c.operation = .listResources then a.slice.map .string else none) .slice
    ++ flagWish i.extendAsLongAsPossible .extendAsLongAsPossible
    ++ valueWish
        (if OptionKind.users.isLegal c.operation c.version then a.users else none) .users
    ++ valueWish (i.speakingFor.map .string) .speakingFor

/-! ## §4. The resource format. -/

/-- A format as the value of an option. -/
def formatValue (f : ResourceFormat) : Json :=
  .ofMembers [("type", .string f.kind), ("version", .string f.version)]

/-- The formats in words. -/
def formatList (formats : List ResourceFormat) : String :=
  Text.commaList (formats.map ResourceFormat.text)

/-- Whether a format is missing from the ones that are advertised.  Where
none is advertised nothing is missing. -/
def isUnadvertised (requested : ResourceFormat) (advertised : List ResourceFormat) : Bool :=
  !advertised.isEmpty && !advertised.any fun f => f.agrees requested

/-- Said of a format that relaxed mode asks for although it is not
advertised. -/
def requestedAnyway (requested : ResourceFormat) (advertised : List ResourceFormat) : String :=
  (OptionFault.unadvertised requested.text (formatList advertised)).message
    ++ "; requesting it anyway"

/-- The format that was asked for. -/
def grantFormat (c : Context) (requested : ResourceFormat) (advertised : List ResourceFormat)
    (d : Draft) : Except OptionFault Draft :=
  if c.operation.takesFormat && isUnadvertised requested advertised then
    match c.mode with
    | .strict => .error (.unadvertised requested.text (formatList advertised))
    | .relaxed =>
        grant c .format (formatValue requested) (d.warn (requestedAnyway requested advertised))
  else grant c .format (formatValue requested) d

/-- The format where none was asked for: the only one, if there is just
one. -/
def defaultFormat (c : Context) (advertised : List ResourceFormat) (d : Draft) :
    Except OptionFault Draft :=
  if !c.operation.takesFormat then .ok d
  else match advertised with
    | [only] => grant c .format (formatValue only) d
    | [] => .ok (d.warn "aggregate advertises no resource description formats")
    | several =>
        .ok (d.warn ("aggregate advertises several resource description formats ("
          ++ formatList several ++ "); choose one to request a specific format"))

/-- The option for the format. -/
def chooseFormat (c : Context) (i : Intent) (advertised : List ResourceFormat) (d : Draft) :
    Except OptionFault Draft :=
  match i.format with
  | some requested => grantFormat c requested advertised d
  | none => defaultFormat c advertised d

/-! ## §5. All options. -/

/-- The caller's own options. -/
def override (i : Intent) (d : Draft) : Draft :=
  { d with options := Keyed.insertAll d.options i.overrides }

/-- Whether options that are there have no place in the call. -/
def dropsOptions (c : Context) (d : Draft) : Bool :=
  c.version < 2 && c.operation ≠ .listResources && !d.options.isEmpty

/-- Said where options have no place in the call. -/
def droppedWarning (c : Context) (d : Draft) : String :=
  "AM API version 1 " ++ c.operation.name ++ " takes no options; dropping "
    ++ Text.commaList d.options.keys

/-- Warn where options have no place in the call. -/
def warnDropped (c : Context) (d : Draft) : Draft :=
  if dropsOptions c d then d.warn (droppedWarning c d) else d

/-- **The options of a call.**  The formats that the aggregate advertises
decide on the format only. -/
def buildOptions (c : Context) (i : Intent) (a : Arguments) (advertised : List ResourceFormat) :
    Except OptionFault Draft := do
  -- The order of the warnings is the order of the wishes.
  let d ← (earlyWishes c i).foldlM (Wish.grant c) Draft.empty
  let d ← chooseFormat c i advertised d
  let d ← (lateWishes c i a).foldlM (Wish.grant c) d
  -- The caller's own options replace what was set before, legal or not.
  return warnDropped c (override i d)

end Federation.Call
