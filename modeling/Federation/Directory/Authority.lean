/-
  Federation.Directory.Authority
  ──────────────────────────────
  **AUTHORITIES OF URNS.**

  The aggregate manager and the component manager of one authority publish
  their URNs with the endings `+authority+am` and `+authority+cm`, and either
  may be named by the other's URN.  Blanks at the ends and letter case do not
  count.

  Main results: `sameAuthority` is an equivalence (`sameAuthority_refl`,
  `sameAuthority_symm`, `sameAuthority_trans`).
-/
import Federation.Text.Blank
import Federation.Text.Fold
import Federation.Text.Split

namespace Federation.Directory

/-- The endings that do not tell authorities apart. -/
def managerEndings : List String := ["+authority+am", "+authority+cm"]

/-- What the URNs of one authority have in common: lower case, without a
manager's ending. -/
def authorityKey (urn : String) : String :=
  let folded := Text.lower (Text.trim urn)
  (managerEndings.findSome? fun ending => Text.dropEnding? ending folded).getD folded

/-- Whether two URNs name one authority. -/
def sameAuthority (left right : String) : Bool := authorityKey left == authorityKey right

theorem sameAuthority_refl (u : String) : sameAuthority u u = true := by
  simp [sameAuthority]

theorem sameAuthority_symm {u v : String} (h : sameAuthority u v = true) :
    sameAuthority v u = true := by
  simp only [sameAuthority, beq_iff_eq] at h ⊢
  exact h.symm

theorem sameAuthority_trans {u v w : String} (h : sameAuthority u v = true)
    (k : sameAuthority v w = true) : sameAuthority u w = true := by
  simp only [sameAuthority, beq_iff_eq] at h k ⊢
  exact h.trans k

end Federation.Directory
