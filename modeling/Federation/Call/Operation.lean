/-
  Federation.Call.Operation
  ─────────────────────────
  **OPERATIONS.**

  The ten operations of the aggregate manager interface.  What an operation
  is called on the wire depends on the protocol version: below version 3
  several have another name and three do not exist.  Version 0 does not
  exist at all.

  Main result: `wireName?_eq_none_iff` — which operations are missing where.
-/
import Federation.Text.Blank
import Federation.Text.Fold

namespace Federation

/-! ## §1. Operations. -/

/-- What can be asked of an aggregate. -/
inductive Operation where
  /-- Which versions, formats and credentials it takes. -/
  | getVersion
  /-- The resources it advertises, or those of a slice. -/
  | listResources
  /-- The manifest of slivers or of a slice. -/
  | describe
  /-- Reserve resources for a slice. -/
  | allocate
  /-- Set up what was reserved. -/
  | provision
  /-- Start, stop or restart what was set up. -/
  | performOperationalAction
  /-- Keep resources for longer. -/
  | renew
  /-- The state of resources. -/
  | status
  /-- Give resources back. -/
  | delete
  /-- Stop a slice in an emergency. -/
  | shutdown
  deriving DecidableEq, Repr, Inhabited

/-- What kind of effect an operation has. -/
inductive OperationClass where
  | readOnly
  | allocation
  | multiResource
  | sliceWide
  deriving DecidableEq, Repr

namespace Operation

/-- All operations, in order. -/
def all : List Operation :=
  [getVersion, listResources, describe, allocate, provision, performOperationalAction, renew,
    status, delete, shutdown]

/-- The name of an operation. -/
def name : Operation → String
  | .getVersion => "GetVersion"
  | .listResources => "ListResources"
  | .describe => "Describe"
  | .allocate => "Allocate"
  | .provision => "Provision"
  | .performOperationalAction => "PerformOperationalAction"
  | .renew => "Renew"
  | .status => "Status"
  | .delete => "Delete"
  | .shutdown => "Shutdown"

/-- Other names that an operation is known by. -/
def otherNames : Operation → List String
  | .allocate => ["createsliver"]
  | .performOperationalAction => ["poa"]
  | .renew => ["renewsliver"]
  | .status => ["sliverstatus"]
  | .delete => ["deletesliver"]
  | _ => []

/-- The form in which names are compared: no outer blanks, hyphens or
underscores, lower case. -/
def nameKey (s : String) : String :=
  Text.lower (String.ofList ((Text.trimChars s.toList).filter fun c => c ≠ '-' ∧ c ≠ '_'))

/-- The operation of a name. -/
def read? (s : String) : Option Operation :=
  all.find? fun o => (Text.lower o.name :: o.otherNames).contains (nameKey s)

/-! ## §2. Properties. -/

/-- The class of an operation. -/
def kind : Operation → OperationClass
  | .getVersion | .listResources | .describe | .status => .readOnly
  | .allocate => .allocation
  | .provision | .performOperationalAction | .renew | .delete => .multiResource
  | .shutdown => .sliceWide

/-- Whether a call to many aggregates may change the version. -/
def reconcilesFleet (o : Operation) : Bool := o ≠ .getVersion && o.kind == .readOnly

/-- Whether replies are compared with the slivers that were asked for. -/
def reportsResources (o : Operation) : Bool :=
  !([getVersion, listResources, shutdown].contains o)

/-- Whether the resource format of the reply can be chosen. -/
def takesFormat (o : Operation) : Bool := [listResources, describe].contains o

/-! ## §3. Names on the wire. -/

/-- The first version at which slivers are addressed one by one. -/
def modernVersion : Nat := 3

/-- Whether the version addresses slivers one by one. -/
def isModern (version : Nat) : Bool := modernVersion ≤ version

/-- The name below version 3. -/
def legacyName? : Operation → Option String
  | .describe | .provision | .performOperationalAction => none
  | .allocate => some "CreateSliver"
  | .renew => some "RenewSliver"
  | .status => some "SliverStatus"
  | .delete => some "DeleteSliver"
  | o => some o.name

/-- **The method of an operation at a version**, where there is one. -/
def wireName? (o : Operation) (version : Nat) : Option String :=
  if version = 0 then none
  else if isModern version then some o.name
  else o.legacyName?

/-- **Where an operation is missing**: at version 0, and below version 3 for
the three that work on what was allocated. -/
theorem wireName?_eq_none_iff (o : Operation) (v : Nat) :
    o.wireName? v = none ↔
      v = 0 ∨ (v < 3 ∧ (o = describe ∨ o = provision ∨ o = performOperationalAction)) := by
  unfold wireName? isModern modernVersion
  by_cases h0 : v = 0
  · simp [h0]
  · by_cases h3 : 3 ≤ v
    · have high : ¬v < 3 := by omega
      simp only [h0, h3, high, if_false, decide_true, if_true, reduceCtorEq, false_and, or_self]
    · have low : v < 3 := by omega
      have modern : (3 ≤ v) = False := eq_false h3
      cases o <;> simp [h0, low, modern, legacyName?]

theorem ne_getVersion_of_reconcilesFleet {o : Operation} (h : o.reconcilesFleet = true) :
    o ≠ .getVersion := by
  rintro rfl
  cases h

/-- Reading the name of an operation gives it back. -/
theorem read?_name (o : Operation) : read? o.name = some o := by
  cases o <;> decide +kernel

end Operation

end Federation
