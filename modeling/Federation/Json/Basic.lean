/-
  Federation.Json.Basic
  ─────────────────────
  **JSON VALUES.**

  What a remote call carries and what the capability file holds.  A number
  written without point and exponent is an integer as long as it fits
  sixty-four bits; every other number is a real.  The members of an object
  are in key order.

  Main results: `member?_object` and `member?_without` — looking a member up
  after another one was removed.
-/
import Federation.Keyed
import Federation.Number.Binary64
import Federation.Number.Width

namespace Federation

open Number (Binary64)

/-! ## §1. Values. -/

namespace Json

/-- A number keeps whether it was written as an integer. -/
inductive Numeral where
  | integer (value : Int)
  | real (value : Binary64)
  deriving DecidableEq, Repr, Inhabited

end Json

/-- A JSON value. -/
inductive Json where
  | null
  | bool (value : Bool)
  | number (value : Json.Numeral)
  | string (value : String)
  | array (items : List Json)
  | object (members : List (String × Json))
  deriving Inhabited

namespace Json

/-- A natural number as a value. -/
def nat (n : Nat) : Json := .number (.integer n)

/-- An integer as a value. -/
def int (i : Int) : Json := .number (.integer i)

/-- An object with the given members, the later of two with one name. -/
def ofMembers (members : List (String × Json)) : Json := .object (Keyed.ofPairs members)

/-- The text, or null. -/
def ofText? : Option String → Json
  | none => .null
  | some s => .string s

/-- A list of texts. -/
def texts (ss : List String) : Json := .array (ss.map .string)

/-! ## §2. Views. -/

def isNull : Json → Bool
  | .null => true
  | _ => false

def members? : Json → Option (Keyed String Json)
  | .object ms => some ms
  | _ => none

def items? : Json → Option (List Json)
  | .array xs => some xs
  | _ => none

def text? : Json → Option String
  | .string s => some s
  | _ => none

def flag? : Json → Option Bool
  | .bool b => some b
  | _ => none

/-- The member of an object; other values have none. -/
def member? (j : Json) (name : String) : Option Json :=
  j.members?.bind (Keyed.get? · name)

/-- An integer of at most sixty-four bits, signed. -/
def int64? : Json → Option Int
  | .number (.integer i) => if Number.fitsSigned i then some i else none
  | _ => none

/-- A natural number below `bound`. -/
def natBelow? (bound : Nat) : Json → Option Nat
  | .number (.integer i) => if 0 ≤ i ∧ i < bound then some i.toNat else none
  | _ => none

/-- The value unless it is null. -/
def nonNull? (j : Json) : Option Json := if j.isNull then none else some j

/-- The object without one member; other values are left alone. -/
def without (name : String) : Json → Json
  | .object ms => .object (Keyed.erase ms name)
  | j => j

@[simp] theorem member?_object (ms : Keyed String Json) (name : String) :
    (Json.object ms).member? name = ms.get? name := rfl

/-- Removing one member leaves every other member as it was. -/
theorem member?_without {j : Json} {name other : String} (h : name ≠ other) :
    (j.without name).member? other = j.member? other := by
  cases j <;> simp [without, member?, members?, Keyed.get?_erase_ne _ h]

/-- The removed member is gone. -/
theorem member?_without_self (j : Json) (name : String) :
    (j.without name).member? name = none := by
  cases j <;> simp [without, member?, members?, Keyed.get?_erase_self]

end Json

end Federation
