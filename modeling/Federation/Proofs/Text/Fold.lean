/-
  Federation.Proofs.Text.Fold
  ───────────────────────────
  **LETTER CASE AND BLANKS.**

  To put a text in lower case changes neither its length nor where it has
  blanks, and a second time it changes nothing.  So it does not matter
  whether a text is trimmed first or put in lower case first.

  Main results:
    * `trim_lower` — trimming and lower case commute;
    * `lower_trim_idem` — a text that is trimmed and in lower case is so for
      good.
-/
import Federation.Proofs.Text.Blank
import Federation.Text.Fold

namespace Federation.Text

/-! ## §1. One character. -/

theorem toLower_eq_self {c : Char} (h : c.isUpper = false) : c.toLower = c :=
  dif_neg (of_decide_eq_false h)

/-- A capital is thirty-two places before its letter. -/
theorem toNat_toLower {c : Char} (h : c.isUpper = true) : c.toLower.toNat = c.toNat + 32 := by
  have hrange : 65 ≤ c.toNat ∧ c.toNat ≤ 90 := of_decide_eq_true h
  have hletter : c.toLower.val = c.val + ('a'.val - 'A'.val) := by
    unfold Char.toLower
    rw [dif_pos (of_decide_eq_true h)]
  show c.toLower.val.toNat = _
  rw [hletter, UInt32.toNat_add]
  show (c.toNat + 32) % 4294967296 = _
  omega

theorem isUpper_toLower (c : Char) : c.toLower.isUpper = false := by
  cases hupper : c.isUpper with
  | true =>
      have hrange : 65 ≤ c.toNat ∧ c.toNat ≤ 90 := of_decide_eq_true hupper
      have hletter := toNat_toLower hupper
      refine decide_eq_false fun hagain => ?_
      have hlast : c.toLower.toNat ≤ 90 := hagain.2
      omega
  | false => rw [toLower_eq_self hupper, hupper]

/-- No letter is a blank. -/
theorem isBlank_of_letter {c : Char} (hlow : 65 ≤ c.toNat) (hhigh : c.toNat ≤ 122) :
    isBlank c = false := by
  refine Bool.of_not_eq_true fun h => ?_
  unfold isBlank at h
  simp only [Bool.or_eq_true, Bool.and_eq_true, decide_eq_true_eq, beq_iff_eq] at h
  omega

/-- A blank is a blank in lower case, and nothing else is. -/
theorem isBlank_toLower (c : Char) : isBlank c.toLower = isBlank c := by
  cases hupper : c.isUpper with
  | true =>
      have hrange : 65 ≤ c.toNat ∧ c.toNat ≤ 90 := of_decide_eq_true hupper
      have hletter := toNat_toLower hupper
      rw [isBlank_of_letter (by omega) (by omega), isBlank_of_letter (by omega) (by omega)]
  | false => rw [toLower_eq_self hupper]

/-! ## §2. Texts. -/

theorem toList_lower (s : String) : (lower s).toList = s.toList.map Char.toLower :=
  String.toList_ofList

theorem lower_lower (s : String) : lower (lower s) = lower s := by
  unfold lower
  rw [String.toList_ofList, List.map_map]
  congr 1
  exact List.map_congr_left fun c _ => toLower_eq_self (isUpper_toLower c)

/-- Texts that differ in case only are of one length. -/
theorem length_of_sameFolded {a b : String} (h : sameFolded a b = true) :
    a.toList.length = b.toList.length := by
  have hlower : lower a = lower b := eq_of_beq h
  rw [← List.length_map Char.toLower, ← toList_lower, hlower, toList_lower, List.length_map]

/-- **Trimming and lower case commute.** -/
theorem trim_lower (s : String) : trim (lower s) = lower (trim s) := by
  have hleft (cs : List Char) :
      trimLeft (cs.map Char.toLower) = (trimLeft cs).map Char.toLower := by
    have hblank : isBlank ∘ Char.toLower = isBlank := funext isBlank_toLower
    unfold trimLeft
    rw [List.dropWhile_map, hblank]
  rw [trim, toList_lower, lower, toList_trim, trimChars, trimChars, hleft, ← List.map_reverse,
    hleft, ← List.map_reverse]

/-- **What is trimmed and in lower case is so for good.** -/
theorem lower_trim_idem (s : String) : lower (trim (lower (trim s))) = lower (trim s) := by
  rw [trim_lower, trim_trim, lower_lower]

end Federation.Text
