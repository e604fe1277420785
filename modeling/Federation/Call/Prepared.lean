/-
  Federation.Call.Prepared
  ────────────────────────
  **CALLS READY TO BE SENT.**

  The positional arguments of a method are given by its shape, a list of
  slots; preparing a call fills the slots from the arguments, the
  credentials and the options.  Below version 2 only the listing of
  resources has a slot for options.

  Main result: `prepare_method` — a prepared call has the method of its
  operation and version.
-/
import Federation.Call.Arguments
import Federation.Call.Credential

namespace Federation.Call

/-! ## §1. Shapes. -/

/-- What stands at one position. -/
inductive Slot where
  | slice
  | targets
  | credentials
  | request
  | users
  | expiration
  | action
  | options
  deriving DecidableEq, Repr

/-- What names the resources: the slice below version 3, a list after. -/
def subject (version : Nat) : Slot := if Operation.isModern version then .targets else .slice

/-- The positions before the options. -/
def body (o : Operation) (version : Nat) : List Slot :=
  match o with
  | .getVersion => []
  | .listResources => [.credentials]
  | .allocate =>
      [.slice, .credentials, .request] ++ if Operation.isModern version then [] else [.users]
  | .renew => [subject version, .credentials, .expiration]
  | .performOperationalAction => [.targets, .credentials, .action]
  | .shutdown => [.slice, .credentials]
  | .describe | .provision | .status | .delete => [subject version, .credentials]

/-- Whether the last position is for options. -/
def takesOptions (o : Operation) (version : Nat) : Bool :=
  match o with
  | .getVersion => Operation.isModern version
  | .listResources => true
  | _ => 2 ≤ version

/-- All positions. -/
def shape (o : Operation) (version : Nat) : List Slot :=
  body o version ++ if takesOptions o version then [.options] else []

/-! ## §2. Filling the slots. -/

/-- Named options of a call. -/
abbrev Options := Keyed String Json

/-- What is sent: a method and its positional arguments. -/
structure Prepared where
  method : String
  arguments : List Json
  deriving Inhabited

/-- The expiration in its wire form. -/
def expirationText (o : Operation) (a : Arguments) : Except OperationFault String :=
  (Time.normalise (a.expiration.getD "")).mapError (.invalid o "expiration")

/-- The value at one position. -/
def fill (o : Operation) (version : Nat) (a : Arguments) (credentials : List Credential)
    (options : Options) : Slot → Except OperationFault Json
  | .slice => .ok (.string (a.slice.getD ""))
  | .targets => .ok (Json.texts a.targets)
  | .credentials => .ok (.array (credentials.map (·.wire version)))
  | .request => .ok (.string (a.request.getD ""))
  | .users => .ok (a.users.getD (.array []))
  | .expiration => (expirationText o a).map .string
  | .action => .ok (.string (a.action.getD ""))
  | .options => .ok (.object options)

/-- **Prepare a call**, once its arguments are found in order. -/
def prepare (o : Operation) (version : Nat) (a : Arguments) (credentials : List Credential)
    (options : Options) : Except OperationFault Prepared := do
  o.validate version a
  match o.wireName? version with
  | none => .error (.unavailable o version)
  | some method =>
      let arguments ← (shape o version).mapM (fill o version a credentials options)
      return ⟨method, arguments⟩

/-- **The method is that of the operation and the version.** -/
theorem prepare_method {o : Operation} {v : Nat} {a : Arguments} {cs : List Credential}
    {opts : Options} {p : Prepared} (h : prepare o v a cs opts = .ok p) :
    o.wireName? v = some p.method := by
  unfold prepare at h
  cases hv : o.validate v a with
  | error e => simp [hv, bind, Except.bind] at h
  | ok u =>
    cases hw : o.wireName? v with
    | none => simp [hv, hw, bind, Except.bind] at h
    | some m =>
      cases ha : (shape o v).mapM (fill o v a cs opts) with
      | error e => simp [hv, hw, ha, bind, Except.bind] at h
      | ok args =>
        simp only [hv, hw, ha, bind, Except.bind, pure, Except.pure, Except.ok.injEq] at h
        rw [← h]

end Federation.Call
