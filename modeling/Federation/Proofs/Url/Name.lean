/-
  Federation.Proofs.Url.Name
  ──────────────────────────
  **WHAT STANDS IN A HOST NAME.**

  Bringing a name into ASCII adds letters, figures, hyphens and points only,
  so none of the characters that mean something in an address can come out
  of it: those that a name may not hold are refused before.

  Main results:
    * `Bootstring.mem_write` — what stands in a label in ASCII;
    * `isForbidden_of_toAscii?` — no forbidden character comes out.
-/
import Federation.Proofs.Collect
import Federation.Proofs.Text.Split
import Federation.Url.Name.Label

namespace Federation.Url.Name

open Text (splitAll mem_of_mem_splitAll)

namespace Bootstring

/-! ## §1. Digits. -/

/-- One of the thirty-six digits. -/
def IsDigit (c : Char) : Prop := ∃ d < 36, c = digitChar d

theorem mem_writeNumber (bias k q : Nat) : ∀ c ∈ writeNumber bias k q, IsDigit c := by
  induction q using Nat.strongRecOn generalizing k with
  | ind q ih =>
      intro c hc
      have hpos := threshold_pos k bias
      have hle := threshold_le k bias
      rw [writeNumber] at hc
      split at hc
      · exact ⟨q, by omega, List.mem_singleton.1 hc⟩
      · have hdigit := Nat.mod_lt (q - threshold k bias) (y := 36 - threshold k bias) (by omega)
        rcases List.mem_cons.1 hc with rfl | hc
        · exact ⟨_, by omega, rfl⟩
        · refine ih _ ?_ _ c hc
          exact Nat.lt_of_le_of_lt (Nat.div_le_self _ _) (by omega)

/-! ## §2. Labels. -/

/-- A pass adds digits only. -/
theorem mem_writePass (basic n : Nat) (label : List Char) (w : Writer)
    (h : ∀ c ∈ w.written, IsDigit c) : ∀ c ∈ (writePass basic n w label).written, IsDigit c := by
  induction label generalizing w with
  | nil => exact h
  | cons x label ih =>
      rw [writePass]
      split
      · exact ih _ h
      · split
        · refine ih _ fun c hc => ?_
          rcases List.mem_append.1 hc with hc | hc
          · exact h c hc
          · exact mem_writeNumber _ _ _ c hc
        · exact ih _ h

theorem mem_writePasses (label : List Char) (basic : Nat) (ms : List Nat) (n : Nat) (w : Writer)
    (h : ∀ c ∈ w.written, IsDigit c) :
    ∀ c ∈ (writePasses label basic n w ms).written, IsDigit c := by
  induction ms generalizing n w with
  | nil => exact h
  | cons m ms ih => exact ih _ _ (mem_writePass _ _ _ _ h)

/-- **What stands in a label in ASCII**: the ASCII characters of the label, the
hyphen after them and digits. -/
theorem mem_write (label : List Char) :
    ∀ c ∈ write label, (c ∈ label ∧ isAscii c = true) ∨ c = '-' ∨ IsDigit c := by
  intro c hc
  unfold write at hc
  dsimp only at hc
  rcases List.mem_append.1 hc with hc | hc
  · rcases List.mem_append.1 hc with hc | hc
    · exact .inl (List.mem_filter.1 hc)
    · split at hc
      · cases hc
      · exact .inr (.inl (List.mem_singleton.1 hc))
  · exact .inr (.inr (mem_writePasses _ _ _ _ _ (fun _ hc => absurd hc List.not_mem_nil) c hc))

end Bootstring

/-! ## §3. Names. -/

theorem isForbidden_of_isDigit {c : Char} (h : Bootstring.IsDigit c) : isForbidden c = false := by
  have all : ∀ d ∈ List.range 36, isForbidden (Bootstring.digitChar d) = false := by decide
  obtain ⟨d, hd, rfl⟩ := h
  exact all d (List.mem_range.2 hd)

theorem isForbidden_of_write {label : List Char} (h : ∀ c ∈ label, isForbidden c = false) :
    ∀ c ∈ Bootstring.write label, isForbidden c = false := by
  intro c hc
  rcases Bootstring.mem_write label c hc with ⟨hc, -⟩ | rfl | hc
  · exact h c hc
  · decide
  · exact isForbidden_of_isDigit hc

/-- A label without forbidden characters has an ASCII form without them. -/
theorem isForbidden_of_asciiForm? {label : List Char} {form : List Char × List Char}
    (h : ∀ c ∈ label, isForbidden c = false) (hform : asciiForm? label = some form) :
    ∀ c ∈ form.1, isForbidden c = false := by
  unfold asciiForm? at hform
  split at hform
  · split at hform
    · cases hform
    · split at hform
      · cases hform
      · split at hform
        · obtain rfl := Option.some.inj hform
          exact h
        · cases hform
  · split at hform
    · obtain rfl := Option.some.inj hform
      exact h
    · split at hform
      · obtain rfl := Option.some.inj hform
        intro c hc
        rcases List.mem_append.1 hc with hc | hc
        · have hmarker : marker.any isForbidden = false := by decide
          exact eq_false_of_ne_true (List.any_eq_false.1 hmarker c hc)
        · exact isForbidden_of_write h c hc
      · cases hform

/-- A name in ASCII is put together from labels in ASCII. -/
theorem labels_of_toAscii? {cs ascii : List Char} (h : toAscii? cs = some ascii) :
    ∃ mapped forms, mapped.any isForbidden = false ∧
      (labels mapped).mapM asciiForm? = some forms ∧ ascii = joinLabels (forms.map Prod.fst) := by
  -- The same from either way in which the characters are replaced.
  have hfrom (mapped : List Char)
      (h : (if mapped.any isForbidden then none
        else ((labels mapped).mapM asciiForm?).bind fun forms =>
          if (forms.any fun p => hasRightToLeft p.2) && !(forms.all fun p => directionsAgree p.2)
          then none else some (joinLabels (forms.map Prod.fst))) = some ascii) :
      ∃ mapped forms, mapped.any isForbidden = false ∧
        (labels mapped).mapM asciiForm? = some forms ∧
          ascii = joinLabels (forms.map Prod.fst) := by
    rw [Option.ite_none_left_eq_some] at h
    obtain ⟨hmapped, h⟩ := h
    obtain ⟨forms, hforms, h⟩ := Option.bind_eq_some_iff.1 h
    rw [Option.ite_none_left_eq_some] at h
    exact ⟨mapped, forms, eq_false_of_ne_true hmapped, hforms, (Option.some.inj h.2).symm⟩
  unfold toAscii? at h
  dsimp only at h
  split at h
  · exact hfrom _ h
  · obtain ⟨mapped, -, h⟩ := Option.bind_eq_some_iff.1 h
    exact hfrom mapped h

/-- **No forbidden character stands in a host name.** -/
theorem isForbidden_of_toAscii? {cs ascii : List Char} (h : toAscii? cs = some ascii) :
    ∀ c ∈ ascii, isForbidden c = false := by
  obtain ⟨mapped, forms, hmapped, hforms, rfl⟩ := labels_of_toAscii? h
  intro c hc
  rcases Text.mem_of_mem_intercalate hc with rfl | ⟨label, hlabel, hc⟩
  · decide
  · obtain ⟨form, hform, rfl⟩ := List.mem_map.1 hlabel
    obtain ⟨piece, hpiece, hascii⟩ := exists_of_mem_mapM hforms form hform
    refine isForbidden_of_asciiForm? (fun x hx => ?_) hascii c hc
    have hx := (mem_of_mem_splitAll hpiece x hx).1
    exact eq_false_of_ne_true (List.any_eq_false.1 hmapped x hx)

end Federation.Url.Name
