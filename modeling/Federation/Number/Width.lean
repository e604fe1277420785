/-
  Federation.Number.Width
  ───────────────────────
  **HOW LARGE AN INTEGER MAY BE.**

  Versions are numbers of thirty-two bits; ages, limits and times are numbers
  of sixty-four.  Status codes, and every integer of a settings file, have
  sixty-four bits and a sign.  The three bounds stand here, once.

  Main result: `fitsSigned_natCast` — a natural number is a signed one exactly
  below half of the unsigned bound.
-/

namespace Federation.Number

/-- Natural numbers of thirty-two bits are below it. -/
def wordBound : Nat := 4294967296

/-- Natural numbers of sixty-four bits are below it. -/
def longBound : Nat := 18446744073709551616

/-- A negative number of sixty-four bits has at most this magnitude; one
that is not negative is below it. -/
def signedBound : Nat := 9223372036854775808

/-- Whether an integer has sixty-four bits, one of them its sign. -/
def fitsSigned (i : Int) : Bool := -(signedBound : Int) ≤ i && i < (signedBound : Int)

theorem wordBound_eq : wordBound = Nat.pow 2 32 := rfl

theorem longBound_eq : longBound = Nat.pow 2 64 := rfl

/-- The sign costs one bit. -/
theorem longBound_eq_two_mul : longBound = 2 * signedBound := rfl

theorem fitsSigned_iff (i : Int) :
    fitsSigned i = true ↔ -(signedBound : Int) ≤ i ∧ i < (signedBound : Int) := by
  simp [fitsSigned]

/-- **A natural number fits exactly below the bound.** -/
theorem fitsSigned_natCast (n : Nat) : fitsSigned n = true ↔ n < signedBound := by
  rw [fitsSigned_iff]
  have : 0 < signedBound := by decide
  omega

end Federation.Number
