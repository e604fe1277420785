/-
  Federation.Number.Shortest
  ──────────────────────────
  **THE FEWEST DIGITS THAT READ BACK.**

  A binary64 value is written with as few decimal digits as still single it
  out among its neighbours.  The values that round to it form an interval,
  whose ends belong to it exactly when the mantissa is even.  For one digit,
  two digits, … seventeen, the two multiples of the matching power of ten
  around the value are tried; the first grid with a hit wins, and of two
  hits the nearer.

  Everything is exact natural arithmetic: an end of the interval is a
  quarter of a unit in the last place times a whole number.
-/
import Federation.Number.Binary64

namespace Federation.Number

/-! ## §1. The interval. -/

/-- The values that round to one binary64 value, in quarters of its last
place. -/
structure Interval where
  /-- Lower end, the value itself and upper end. -/
  low : Nat
  mid : Nat
  high : Nat
  /-- The unit, as a fraction. -/
  unitNum : Nat
  unitDen : Nat
  /-- Whether the ends belong to the interval. -/
  closed : Bool

/-- The interval of a positive value `m · 2^e`. -/
def intervalOf (m : Nat) (e : Int) : Interval :=
  { low := if m = leastNormal ∧ minExponent < e then 4 * m - 1 else 4 * m - 2
    mid := 4 * m
    high := 4 * m + 2
    unitNum := Nat.pow 2 (e - 2).toNat
    unitDen := Nat.pow 2 (2 - e).toNat
    closed := m % 2 = 0 }

/-- Whether the fraction `n / d` lies in the interval. -/
def Interval.holds (i : Interval) (n d : Nat) : Bool :=
  let x := n * i.unitDen
  let lo := i.low * i.unitNum * d
  let hi := i.high * i.unitNum * d
  if i.closed then lo ≤ x && x ≤ hi else lo < x && x < hi

/-! ## §2. Decimal grids. -/

/-- `10^k` as a fraction. -/
def tenPower (k : Int) : Nat × Nat := (Nat.pow 10 k.toNat, Nat.pow 10 (-k).toNat)

/-- Zeros between the point and the first other digit of `num / den < 1`. -/
def leadingZeros (num den : Nat) : Nat → Nat
  | 0 => 0
  | fuel + 1 => if num * 10 < den then leadingZeros (num * 10) den fuel + 1 else 0

/-- Places before the point of `num / den`; at or below zero when the value
is below a tenth. -/
def places (num den : Nat) : Int :=
  if den ≤ num then ((Nat.toDigits 10 (num / den)).length : Int)
  else -(leadingZeros num den 400 : Int)

/-- The hit on the grid of spacing `10^k` around the middle, if any. -/
def Interval.onGrid (i : Interval) (k : Int) : Option Nat :=
  let (pn, pd) := tenPower k
  -- The middle in grid units is n / d.
  let n := i.mid * i.unitNum * pd
  let d := i.unitDen * pn
  let below := n / d
  let hit := fun c : Nat => i.holds (c * pn) pd
  if hit below then
    if hit (below + 1) then
      if 2 * (n % d) < d ∨ (2 * (n % d) = d ∧ below % 2 = 0) then some below
      else some (below + 1)
    else some below
  else if hit (below + 1) then some (below + 1) else none

/-- The first grid with a hit, from spacing `10^k` downwards. -/
def Interval.search (i : Interval) (k : Int) : Nat → Nat × Int
  | 0 => (0, 0)
  | fuel + 1 =>
      match i.onGrid k with
      | some c => (c, k)
      | none => i.search (k - 1) fuel

/-- **The shortest digits** of a positive value: a natural number and the
power of ten that it multiplies. -/
def shortest (x : Binary64) : Nat × Int :=
  let i := intervalOf x.mantissa x.exponent
  let top := places x.num x.den
  strip (i.search (top - 1) 20)
where
  /-- Drop a zero at the end, which a carry can leave. -/
  strip : Nat × Int → Nat × Int
    | (c, k) => if c % 10 = 0 ∧ c ≠ 0 then (c / 10, k + 1) else (c, k)

end Federation.Number
