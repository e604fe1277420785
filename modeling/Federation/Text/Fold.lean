/-
  Federation.Text.Fold
  ────────────────────
  **LETTER CASE.**

  Names are compared without regard to case, and case is a matter of the
  twenty-six ASCII letters only: `É` and `é` stay different.
-/

namespace Federation.Text

/-- ASCII letters in lower case, everything else unchanged. -/
def lower (s : String) : String := String.ofList (s.toList.map Char.toLower)

/-- Equality without regard to ASCII case. -/
def sameFolded (a b : String) : Bool := lower a == lower b

theorem sameFolded_refl (a : String) : sameFolded a a = true := by
  simp [sameFolded]

theorem sameFolded_symm {a b : String} (h : sameFolded a b = true) :
    sameFolded b a = true := by
  simp only [sameFolded, beq_iff_eq] at h ⊢
  exact h.symm

end Federation.Text
