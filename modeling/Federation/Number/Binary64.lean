/-
  Federation.Number.Binary64
  ──────────────────────────
  **FINITE BINARY64 VALUES, EXACTLY.**

  A reply may hold a number with a fraction or an exponent, and a time may
  hold a fraction of an hour; both are kept in double precision.  A finite
  value is `(-1)^negative · mantissa · 2^exponent` with natural mantissa, and
  every operation here is the exact rational result rounded once, to
  nearest with ties to the even mantissa.  A result beyond the largest
  finite value is `none`.

  Main result: `roundHalfEven_le` and `le_roundHalfEven` — rounding moves a
  quotient to one of its two integer neighbours.
-/

namespace Federation.Number

/-! ## §1. Rounding a quotient. -/

/-- The integer nearest to `num / den`; of two, the even one. -/
def roundHalfEven (num den : Nat) : Nat :=
  let q := num / den
  let r := num % den
  if 2 * r < den then q
  else if den < 2 * r then q + 1
  else if q % 2 = 0 then q else q + 1

theorem roundHalfEven_le (num den : Nat) : roundHalfEven num den ≤ num / den + 1 := by
  unfold roundHalfEven
  simp only
  split
  · omega
  · split
    · omega
    · split <;> omega

theorem le_roundHalfEven (num den : Nat) : num / den ≤ roundHalfEven num den := by
  unfold roundHalfEven
  simp only
  split
  · omega
  · split
    · omega
    · split <;> omega

/-! ## §2. Values. -/

/-- The smallest exponent of the format. -/
def minExponent : Int := -1074

/-- The largest exponent of the format. -/
def maxExponent : Int := 971

/-- A mantissa has fifty-three bits at most. -/
def mantissaBound : Nat := 9007199254740992

/-- The least mantissa with all of them. -/
def leastNormal : Nat := 4503599627370496

/-- A finite binary64 value. -/
structure Binary64 where
  negative : Bool
  mantissa : Nat
  exponent : Int
  deriving DecidableEq, Repr, Inhabited

namespace Binary64

/-- Positive zero. -/
def zero : Binary64 := ⟨false, 0, minExponent⟩

def isZero (x : Binary64) : Bool := x.mantissa == 0

def negate (x : Binary64) : Binary64 := { x with negative := !x.negative }

/-- Numerator of the magnitude. -/
def num (x : Binary64) : Nat := x.mantissa * Nat.pow 2 x.exponent.toNat

/-- Denominator of the magnitude. -/
def den (x : Binary64) : Nat := Nat.pow 2 (-x.exponent).toNat

/-- `num / den` in units of `2^e`, as a numerator and a denominator. -/
def inUnits (num den : Nat) (e : Int) : Nat × Nat :=
  (num * Nat.pow 2 (-e).toNat, den * Nat.pow 2 e.toNat)

/-- The exponent of the value nearest to `num / den`: the finest one that
leaves at most fifty-three bits of mantissa. -/
def exponentOf (num den : Nat) : Int :=
  let guess := max ((num.log2 : Int) - den.log2 - 53) minExponent
  let (n, d) := inUnits num den guess
  if n / d < mantissaBound then guess else guess + 1

/-- **The value nearest to `num / den`**; `none` beyond the largest. -/
def ofRatio (num den : Nat) : Option Binary64 :=
  if num = 0 then some zero
  else
    let e := exponentOf num den
    let (n, d) := inUnits num den e
    let m := roundHalfEven n d
    let (m, e) := if m = mantissaBound then (leastNormal, e + 1) else (m, e)
    if maxExponent < e then none else some ⟨false, m, e⟩

/-- The value nearest to a natural number. -/
def ofNat? (n : Nat) : Option Binary64 := ofRatio n 1

/-- The value nearest to `10^k`. -/
def tenTo? (k : Nat) : Option Binary64 := ofRatio (Nat.pow 10 k) 1

/-- Magnitude of the product. -/
def mul? (a b : Binary64) : Option Binary64 := ofRatio (a.num * b.num) (a.den * b.den)

/-- Magnitude of the quotient. -/
def div? (a b : Binary64) : Option Binary64 := ofRatio (a.num * b.den) (a.den * b.num)

/-- Sum of the magnitudes. -/
def add? (a b : Binary64) : Option Binary64 :=
  ofRatio (a.num * b.den + b.num * a.den) (a.den * b.den)

/-- Remainder of the magnitudes; exact, so it needs no rounding. -/
def mod? (a b : Binary64) : Option Binary64 :=
  ofRatio (a.num * b.den % (b.num * a.den)) (a.den * b.den)

/-- The magnitude without its fraction. -/
def floor (a : Binary64) : Nat := a.num / a.den

/-- The natural number nearest to the magnitude; a half goes up. -/
def round (a : Binary64) : Nat := (2 * a.num + a.den) / (2 * a.den)

end Binary64

end Federation.Number
