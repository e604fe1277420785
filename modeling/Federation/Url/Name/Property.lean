/-
  Federation.Url.Name.Property
  ────────────────────────────
  **PROPERTIES OF CHARACTERS IN NAMES.**

  The rows of the character data as sorted arrays, and the questions that
  the treatment of a name asks of them: what a character is replaced by, its
  combining class, whether it is a mark, which way it is written and how it
  joins its neighbours.
-/
import Federation.Url.Name.Tables

namespace Federation.Url.Name

/-! ## §1. Rows. -/

/-- A row: numbers, the first of them the key. -/
abbrev Row := List Nat

/-- The last row whose first number is at most `n`, between two indices. -/
def lastAtMost (t : Array Row) (n : Nat) (low high : Nat) : Nat → Option Row
  | 0 => none
  | fuel + 1 =>
      if high ≤ low then (if low = 0 then none else t[low - 1]?)
      else
        let middle := (low + high) / 2
        match t[middle]? with
        | some (first :: _) =>
            if first ≤ n then lastAtMost t n (middle + 1) high fuel
            else lastAtMost t n low middle fuel
        | _ => none

/-- The row that may hold `n`. -/
def rowFor (t : Array Row) (n : Nat) : Option Row := lastAtMost t n 0 t.size 32

/-- Whether some range holds `n`. -/
def inRanges (t : Array Row) (n : Nat) : Bool :=
  match rowFor t n with
  | some (_ :: last :: _) => n ≤ last
  | _ => false

/-- The value of the range that holds `n`; zero where none does. -/
def rangeValue (t : Array Row) (n : Nat) : Nat :=
  match rowFor t n with
  | some [_, last, value] => if n ≤ last then value else 0
  | _ => 0

/-! ## §2. The tables. -/

def disallowed : Array Row := Tables.disallowedRows.toArray
def ignored : Array Row := Tables.ignoredRows.toArray
def shifted : Array Row := Tables.shiftedRows.toArray
def replaced : Array Row := Tables.replacedRows.toArray
def composed : Array Row := Tables.composedRows.toArray
def classes : Array Row := Tables.classRows.toArray
def marks : Array Row := Tables.markRows.toArray
def directions : Array Row := Tables.directionRows.toArray
def joinings : Array Row := Tables.joiningRows.toArray

/-! ## §3. Questions. -/

/-- What a character of a name stands for: nothing if no name may hold it,
otherwise the characters in its place. -/
def mapping? (c : Char) : Option (List Char) :=
  let n := c.toNat
  match rowFor replaced n with
  | some (first :: targets) =>
      if first = n then some (targets.map Char.ofNat) else unlisted n
  | _ => unlisted n
where
  unlisted (n : Nat) : Option (List Char) :=
    match rowFor shifted n with
    | some [first, last, step, target] =>
        if n ≤ last ∧ (n - first) % step = 0 then some [Char.ofNat (target + (n - first))]
        else plain n
    | _ => plain n
  plain (n : Nat) : Option (List Char) :=
    if inRanges disallowed n then none
    else if inRanges ignored n then some []
    else some [Char.ofNat n]

/-- The canonical combining class. -/
def combiningClass (c : Char) : Nat := rangeValue classes c.toNat

/-- The class of the marks that suppress an inherent vowel. -/
def virama : Nat := 9

/-- Whether the character combines with the one before it. -/
def isMark (c : Char) : Bool := inRanges marks c.toNat

/-- Which way a character is written. -/
inductive Direction where
  | left
  | right
  | arabicLetter
  | arabicNumber
  | europeanNumber
  | europeanSeparator
  | commonSeparator
  | europeanTerminator
  | neutral
  | boundaryNeutral
  | nonspacing
  | other
  deriving DecidableEq, Repr

def direction (c : Char) : Direction :=
  match rangeValue directions c.toNat with
  | 0 => .left
  | 1 => .right
  | 2 => .arabicLetter
  | 3 => .arabicNumber
  | 4 => .europeanNumber
  | 5 => .europeanSeparator
  | 6 => .commonSeparator
  | 7 => .europeanTerminator
  | 8 => .neutral
  | 9 => .boundaryNeutral
  | 10 => .nonspacing
  | _ => .other

/-- How a character joins its neighbours in a cursive script. -/
inductive Joining where
  | none
  | both
  | left
  | right
  | transparent
  deriving DecidableEq, Repr

def joining (c : Char) : Joining :=
  match rangeValue joinings c.toNat with
  | 1 => .both
  | 2 => .left
  | 3 => .right
  | 4 => .transparent
  | _ => .none

end Federation.Url.Name
