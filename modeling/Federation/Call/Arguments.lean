/-
  Federation.Call.Arguments
  ─────────────────────────
  **ARGUMENTS AND WHAT IS REQUIRED OF THEM.**

  What an operation needs is a list of requirements, tried in order; the
  first one that the arguments do not meet is the fault.

  Main result: `validate_eq_ok_iff` — arguments are accepted exactly when
  the operation exists at the version and every requirement is met.
-/
import Federation.Call.Operation
import Federation.Json.Basic
import Federation.Time.Notation

namespace Federation

/-! ## §1. Arguments. -/

/-- What the caller supplies with an operation. -/
structure Arguments where
  /-- The slice. -/
  slice : Option String
  /-- Single slivers; results are compared with them. -/
  slivers : List String
  /-- A request for resources. -/
  request : Option String
  /-- Users and their keys. -/
  users : Option Json
  /-- The time up to which resources are wanted. -/
  expiration : Option String
  /-- The name of an action. -/
  action : Option String
  deriving Inhabited

namespace Arguments

/-- No arguments. -/
def none : Arguments := ⟨.none, [], .none, .none, .none, .none⟩

/-- What the operation is about: the slivers, or else the slice. -/
def targets (a : Arguments) : List String :=
  if a.slivers.isEmpty then a.slice.toList else a.slivers

end Arguments

/-! ## §2. Requirements. -/

/-- An argument that an operation may require. -/
inductive Requirement where
  | slice
  | request
  | targets
  | expiration
  | action
  deriving DecidableEq, Repr

/-- The words for a requirement. -/
def Requirement.words : Requirement → String
  | .slice => "a slice URN"
  | .request => "a request rspec"
  | .targets => "a slice or sliver URNs"
  | .expiration => "an expiration time"
  | .action => "an action"

/-- Whether the arguments meet a requirement. -/
def Arguments.meets (a : Arguments) : Requirement → Bool
  | .slice => a.slice.isSome
  | .request => a.request.isSome
  | .targets => a.slice.isSome || !a.slivers.isEmpty
  | .expiration => a.expiration.isSome
  | .action => a.action.isSome

namespace Operation

/-- What names the resources of an operation on existing ones. -/
def scope (version : Nat) : Requirement := if isModern version then .targets else .slice

/-- What an operation requires, in the order in which it is checked. -/
def requirements (o : Operation) (version : Nat) : List Requirement :=
  match o with
  | .getVersion | .listResources => []
  | .allocate => [.slice, .request]
  | .renew => [scope version, .expiration]
  | .performOperationalAction => [scope version, .action]
  | .shutdown => [.slice]
  | .describe | .provision | .status | .delete => [scope version]

end Operation

/-! ## §3. Faults. -/

/-- Why an operation cannot be called. -/
inductive OperationFault where
  | unavailable (operation : Operation) (version : Nat)
  | missing (operation : Operation) (requirement : Requirement)
  | invalid (operation : Operation) (argument : String) (fault : Time.TimeFault)
  | unknown (name : String)
  deriving DecidableEq, Repr

/-- The words for a fault. -/
def OperationFault.message : OperationFault → String
  | .unavailable o v => o.name ++ " is not available at AM API version " ++ toString v
  | .missing o r => o.name ++ " requires " ++ r.words
  | .invalid o argument fault =>
      o.name ++ " argument " ++ argument ++ " is invalid: " ++ fault.message
  | .unknown name => "unknown operation '" ++ name ++ "'"

/-- Whether a time leaves the calendar. -/
def OperationFault.leavesCalendar : OperationFault → Bool
  | .invalid _ _ .outOfCalendar => true
  | _ => false

namespace Operation

/-- The operation of a name. -/
def read (s : String) : Except OperationFault Operation :=
  match read? s with
  | some o => .ok o
  | none => .error (.unknown s)

/-- **Check the arguments of an operation at a version.** -/
def validate (o : Operation) (version : Nat) (a : Arguments) : Except OperationFault Unit :=
  if (o.wireName? version).isNone then .error (.unavailable o version)
  else match (o.requirements version).find? fun r => !a.meets r with
    | some r => .error (.missing o r)
    | none => .ok ()

/-- **Accepted is what exists and lacks nothing.** -/
theorem validate_eq_ok_iff (o : Operation) (v : Nat) (a : Arguments) :
    o.validate v a = .ok () ↔
      (o.wireName? v).isSome = true ∧ ∀ r ∈ o.requirements v, a.meets r = true := by
  unfold validate
  by_cases h : (o.wireName? v).isNone = true
  · have hs : (o.wireName? v).isSome = false := by
      cases hw : o.wireName? v <;> simp_all
    simp [h, hs]
  · have hs : (o.wireName? v).isSome = true := by
      cases hw : o.wireName? v <;> simp_all
    simp only [h, hs, Bool.false_eq_true, if_false, true_and]
    cases hf : (o.requirements v).find? fun r => !a.meets r with
    | none =>
      simp only [List.find?_eq_none, Bool.not_eq_true', Bool.not_eq_false] at hf
      simpa using hf
    | some r =>
      have hm := List.mem_of_find?_eq_some hf
      have hr := List.find?_some hf
      simp only [Bool.not_eq_true'] at hr
      simp only [reduceCtorEq, false_iff]
      intro hall
      simp [hall r hm] at hr

end Operation

end Federation
