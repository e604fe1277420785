/-
  Federation.Proofs.Url.Renaming
  ──────────────────────────────
  **A NAME IN ASCII STAYS AS IT IS.**

  The ASCII form of a host name is ASCII and without capitals, so reading it
  replaces nothing.  Each of its labels is its own ASCII form and stands for
  the label that it was made from, so what is asked of the labels has the
  same answer the second time.

  Main results:
    * `asciiForm?_again` — one label;
    * `toAscii?_again` — the whole name;
    * `toAscii?_figures` — a name of figures and points.
-/
import Federation.Proofs.Text.Fold
import Federation.Proofs.Url.Capitals
import Federation.Proofs.Url.Name

namespace Federation.Url.Name

open Text (isUpper_toLower toLower_eq_self splitAll splitAll_intercalate mem_of_mem_splitAll
  mem_of_mem_intercalate)
open Bootstring (isAscii)

/-! ## §1. Labels. -/

/-- **What stands in the ASCII form of a label**: ASCII characters of the label, the hyphen, and
digits. -/
theorem mem_asciiForm? {label : List Char} {form : List Char × List Char}
    (h : asciiForm? label = some form) :
    ∀ c ∈ form.1, (c ∈ label ∧ isAscii c = true) ∨ c = '-' ∨ Bootstring.IsDigit c := by
  have hlabel (hascii : label.all isAscii = true) (c : Char) (hc : c ∈ label) :
      (c ∈ label ∧ isAscii c = true) ∨ c = '-' ∨ Bootstring.IsDigit c :=
    .inl ⟨hc, List.all_eq_true.1 hascii c hc⟩
  unfold asciiForm? at h
  split at h
  · obtain ⟨hascii, h⟩ := Option.ite_none_left_eq_some.1 h
    rw [Bool.not_eq_true', Bool.not_eq_false] at hascii
    split at h
    · cases h
    · obtain ⟨-, h⟩ := Option.ite_none_right_eq_some.1 h
      obtain rfl := Option.some.inj h
      exact hlabel hascii
  · split at h
    · rename_i hascii
      obtain rfl := Option.some.inj h
      exact hlabel hascii
    · obtain ⟨-, h⟩ := Option.ite_none_right_eq_some.1 h
      obtain rfl := Option.some.inj h
      intro c hc
      rcases List.mem_append.1 hc with hc | hc
      · -- The marker is two digits and two hyphens.
        unfold marker at hc
        simp only [List.mem_cons, List.not_mem_nil, or_false] at hc
        rcases hc with rfl | rfl | rfl | rfl
        · exact .inr (.inr ⟨23, by decide, rfl⟩)
        · exact .inr (.inr ⟨13, by decide, rfl⟩)
        · exact .inr (.inl rfl)
        · exact .inr (.inl rfl)
      · exact Bootstring.mem_write label c hc

/-- What holds of the ASCII characters of a label, of the hyphen and of the digits. -/
theorem all_asciiForm? {P : Char → Bool} {label : List Char} {form : List Char × List Char}
    (h : asciiForm? label = some form) (hlabel : ∀ c ∈ label, isAscii c = true → P c = true)
    (hhyphen : P '-' = true)
    (hdigit : ∀ d ∈ List.range 36, P (Bootstring.digitChar d) = true) :
    ∀ c ∈ form.1, P c = true := by
  intro c hc
  rcases mem_asciiForm? h c hc with ⟨hc, hascii⟩ | rfl | ⟨d, hd, rfl⟩
  · exact hlabel c hc hascii
  · exact hhyphen
  · exact hdigit d (List.mem_range.2 hd)

theorem isAscii_of_asciiForm? {label : List Char} {form : List Char × List Char}
    (h : asciiForm? label = some form) : form.1.all isAscii = true :=
  List.all_eq_true.2 (all_asciiForm? h (fun _ _ hascii => hascii) (by decide) (by decide))

/-- **The ASCII form of a label is its own**, and stands for the same. -/
theorem asciiForm?_again {label : List Char} {form : List Char × List Char}
    (h : asciiForm? label = some form) : asciiForm? form.1 = some form := by
  have hascii := isAscii_of_asciiForm? h
  have hagain := h
  unfold asciiForm? at h
  split at h
  · obtain ⟨-, h⟩ := Option.ite_none_left_eq_some.1 h
    split at h
    · cases h
    · obtain ⟨-, h⟩ := Option.ite_none_right_eq_some.1 h
      obtain rfl := Option.some.inj h
      exact hagain
  · split at h
    · obtain rfl := Option.some.inj h
      exact hagain
    · obtain ⟨hproper, h⟩ := Option.ite_none_right_eq_some.1 h
      obtain rfl := Option.some.inj h
      -- A label is proper only if it is read back from its ASCII form.
      have hback : Bootstring.read? (Bootstring.write label) = some label := by
        unfold isProper at hproper
        exact beq_iff_eq.1 (Bool.and_eq_true_iff.1 hproper).2
      have hdrop : (marker ++ Bootstring.write label).drop marker.length
          = Bootstring.write label := List.drop_left
      have hprefix : marker.isPrefixOf (marker ++ Bootstring.write label) = true := by
        rw [List.isPrefixOf_iff_prefix]
        exact List.prefix_append _ _
      unfold asciiForm?
      rw [if_pos hprefix, hascii, Bool.not_true, if_neg Bool.false_ne_true, hdrop, hback]
      dsimp only
      rw [hproper, beq_self_eq_true, Bool.and_self, if_pos rfl]

/-! ## §2. Names. -/

/-- The ASCII form of a name whose characters are replaced already. -/
def ofMapped? (mapped : List Char) : Option (List Char) :=
  if mapped.any isForbidden then none
  else ((labels mapped).mapM asciiForm?).bind fun forms =>
    if (forms.any fun p => hasRightToLeft p.2) && !(forms.all fun p => directionsAgree p.2)
    then none else some (joinLabels (forms.map Prod.fst))

theorem toAscii?_of_ascii {cs : List Char} (h : cs.all isAscii = true) :
    toAscii? cs = ofMapped? (cs.map Char.toLower) := by
  unfold toAscii?
  rw [if_pos h]
  rfl

/-- **After replacement there are no capitals**, whichever way the characters were replaced. -/
theorem exists_mapped {cs ascii : List Char} (h : toAscii? cs = some ascii) :
    ∃ mapped, (∀ c ∈ mapped, c.isUpper = false) ∧ ofMapped? mapped = some ascii := by
  by_cases hascii : cs.all isAscii = true
  · refine ⟨cs.map Char.toLower, fun c hc => ?_, by rw [← toAscii?_of_ascii hascii, h]⟩
    obtain ⟨x, -, rfl⟩ := List.mem_map.1 hc
    exact isUpper_toLower x
  · unfold toAscii? at h
    rw [if_neg hascii] at h
    obtain ⟨mapped, hmapped, h⟩ := Option.bind_eq_some_iff.1 h
    exact ⟨mapped, isUpper_of_replaceAll? hmapped, h⟩

/-- What a name in ASCII is put together from. -/
theorem exists_forms {mapped ascii : List Char} (h : ofMapped? mapped = some ascii) :
    ∃ forms, (labels mapped).mapM asciiForm? = some forms ∧
      ((forms.any fun p => hasRightToLeft p.2) && !(forms.all fun p => directionsAgree p.2))
        = false ∧ ascii = joinLabels (forms.map Prod.fst) := by
  unfold ofMapped? at h
  obtain ⟨-, h⟩ := Option.ite_none_left_eq_some.1 h
  obtain ⟨forms, hforms, h⟩ := Option.bind_eq_some_iff.1 h
  obtain ⟨hdirections, h⟩ := Option.ite_none_left_eq_some.1 h
  exact ⟨forms, hforms, eq_false_of_ne_true hdirections, (Option.some.inj h).symm⟩

/-- The labels of a name in ASCII are the forms that it is put together from. -/
theorem labels_joinLabels {mapped : List Char} {forms : List (List Char × List Char)}
    (h : (labels mapped).mapM asciiForm? = some forms) :
    labels (joinLabels (forms.map Prod.fst)) = forms.map Prod.fst := by
  refine splitAll_intercalate ?_ fun piece hpiece => ?_
  · obtain ⟨label, rest, hlabels⟩ :=
      List.exists_cons_of_ne_nil (Text.splitAll_ne_nil (· == '.') mapped)
    unfold labels at h
    rw [hlabels, List.mapM_cons] at h
    obtain ⟨form, -, h⟩ := Option.bind_eq_some_iff.1 h
    obtain ⟨others, -, h⟩ := Option.bind_eq_some_iff.1 h
    obtain rfl := Option.some.inj h
    exact List.cons_ne_nil _ _
  · obtain ⟨form, hform, rfl⟩ := List.mem_map.1 hpiece
    obtain ⟨label, hlabel, hascii⟩ := exists_of_mem_mapM h form hform
    have hpoint := all_asciiForm? (P := fun c => c != '.') hascii
      (fun c hc _ => by simpa using (mem_of_mem_splitAll hlabel c hc).2) (by decide) (by decide)
    exact fun hmem => absurd (hpoint _ hmem) (by decide)

/-- What stands in a name in ASCII. -/
theorem all_joinLabels {P : Char → Bool} {mapped : List Char}
    {forms : List (List Char × List Char)} (h : (labels mapped).mapM asciiForm? = some forms)
    (hmapped : ∀ c ∈ mapped, isAscii c = true → P c = true) (hpoint : P '.' = true)
    (hhyphen : P '-' = true) (hdigit : ∀ d ∈ List.range 36, P (Bootstring.digitChar d) = true) :
    ∀ c ∈ joinLabels (forms.map Prod.fst), P c = true := by
  intro c hc
  rcases mem_of_mem_intercalate hc with rfl | ⟨piece, hpiece, hc⟩
  · exact hpoint
  · obtain ⟨form, hform, rfl⟩ := List.mem_map.1 hpiece
    obtain ⟨label, hlabel, hascii⟩ := exists_of_mem_mapM h form hform
    exact all_asciiForm? hascii (fun x hx => hmapped x (mem_of_mem_splitAll hlabel x hx).1) hhyphen
      hdigit c hc

/-- **The ASCII form of a name is ASCII.** -/
theorem isAscii_of_toAscii? {cs ascii : List Char} (h : toAscii? cs = some ascii) :
    ascii.all isAscii = true := by
  obtain ⟨mapped, -, hmapped⟩ := exists_mapped h
  obtain ⟨forms, hforms, -, rfl⟩ := exists_forms hmapped
  exact List.all_eq_true.2
    (all_joinLabels hforms (fun _ _ hascii => hascii) (by decide) (by decide) (by decide))

/-- It has no capitals. -/
theorem isUpper_of_toAscii? {cs ascii : List Char} (h : toAscii? cs = some ascii) :
    ∀ c ∈ ascii, c.isUpper = false := by
  obtain ⟨mapped, hlower, hmapped⟩ := exists_mapped h
  obtain ⟨forms, hforms, -, rfl⟩ := exists_forms hmapped
  intro c hc
  have hkept := all_joinLabels (P := fun c => !c.isUpper) hforms
    (fun x hx _ => by rw [hlower x hx]; rfl) (by decide) (by decide) (by decide) c hc
  rwa [Bool.not_eq_true'] at hkept

/-- **A name in ASCII stays as it is.** -/
theorem toAscii?_again {cs ascii : List Char} (h : toAscii? cs = some ascii) :
    toAscii? ascii = some ascii := by
  have hascii := isAscii_of_toAscii? h
  have hlower : ascii.map Char.toLower = ascii := by
    rw [List.map_congr_left fun c hc => toLower_eq_self (isUpper_of_toAscii? h c hc)]
    exact List.map_id _
  have hallowed : ascii.any isForbidden = false :=
    List.any_eq_false.2 fun c hc => by simp [isForbidden_of_toAscii? h c hc]
  obtain ⟨mapped, -, hmapped⟩ := exists_mapped h
  obtain ⟨forms, hforms, hdirections, rfl⟩ := exists_forms hmapped
  have hagain : (forms.map Prod.fst).mapM asciiForm? = some forms := by
    refine mapM_map_some fun form hform => ?_
    obtain ⟨label, -, hform⟩ := exists_of_mem_mapM hforms form hform
    exact asciiForm?_again hform
  rw [toAscii?_of_ascii hascii, hlower]
  unfold ofMapped?
  rw [hallowed, if_neg Bool.false_ne_true, labels_joinLabels hforms, hagain, Option.bind_some,
    hdirections, if_neg Bool.false_ne_true]

/-! ## §3. Figures. -/

/-- A label of figures is written from neither side. -/
theorem hasRightToLeft_figures {label : List Char} (h : ∀ c ∈ label, c.isDigit = true) :
    hasRightToLeft label = false := by
  have all : ∀ d ∈ List.range 10, direction (Char.ofNat (48 + d)) = .europeanNumber := by
    decide +kernel
  refine List.any_eq_false.2 fun c hc => ?_
  have hrange : 48 ≤ c.toNat ∧ c.toNat ≤ 57 := Char.isDigit_iff_toNat.1 (h c hc)
  have hdirection := all (c.toNat - 48) (List.mem_range.2 (by omega))
  rw [show 48 + (c.toNat - 48) = c.toNat by omega, Char.ofNat_toNat] at hdirection
  rw [hdirection]
  decide

theorem asciiForm?_figures {label : List Char} (h : ∀ c ∈ label, c.isDigit = true) :
    asciiForm? label = some (label, label) := by
  have hmarker : ¬marker.isPrefixOf label = true := by
    intro hprefix
    obtain ⟨rest, rfl⟩ := List.isPrefixOf_iff_prefix.1 hprefix
    exact absurd (h 'x' (List.mem_append_left rest List.mem_cons_self)) (by decide)
  have hascii : label.all isAscii = true := List.all_eq_true.2 fun c hc => by
    have hrange : 48 ≤ c.toNat ∧ c.toNat ≤ 57 := Char.isDigit_iff_toNat.1 (h c hc)
    exact decide_eq_true (by omega)
  unfold asciiForm?
  rw [if_neg hmarker, if_pos hascii]

/-- Figures and the point are ASCII, no capitals, and may stand in a name. -/
theorem plain_figure {c : Char} (h : c = '.' ∨ c.isDigit = true) :
    isAscii c = true ∧ c.isUpper = false ∧ isForbidden c = false := by
  have all : ∀ d ∈ List.range 10, isForbidden (Char.ofNat (48 + d)) = false := by decide
  rcases h with rfl | h
  · decide
  · have hrange : 48 ≤ c.toNat ∧ c.toNat ≤ 57 := Char.isDigit_iff_toNat.1 h
    have hallowed := all (c.toNat - 48) (List.mem_range.2 (by omega))
    rw [show 48 + (c.toNat - 48) = c.toNat by omega, Char.ofNat_toNat] at hallowed
    refine ⟨decide_eq_true (by omega), decide_eq_false fun hupper => ?_, hallowed⟩
    have hcapital : 65 ≤ c.toNat := hupper.1
    omega

/-- **A name of figures and points** is its own ASCII form. -/
theorem toAscii?_figures {pieces : List (List Char)} (hne : pieces ≠ [])
    (h : ∀ piece ∈ pieces, ∀ c ∈ piece, c.isDigit = true) :
    toAscii? (joinLabels pieces) = some (joinLabels pieces) := by
  have hplain : ∀ c ∈ joinLabels pieces,
      isAscii c = true ∧ c.isUpper = false ∧ isForbidden c = false := by
    intro c hc
    rcases mem_of_mem_intercalate hc with rfl | ⟨piece, hpiece, hc⟩
    · exact plain_figure (.inl rfl)
    · exact plain_figure (.inr (h piece hpiece c hc))
  have hlower : (joinLabels pieces).map Char.toLower = joinLabels pieces := by
    rw [List.map_congr_left fun c hc => toLower_eq_self (hplain c hc).2.1]
    exact List.map_id _
  have hallowed : (joinLabels pieces).any isForbidden = false :=
    List.any_eq_false.2 fun c hc => by simp [(hplain c hc).2.2]
  have hlabels : labels (joinLabels pieces) = pieces := by
    refine splitAll_intercalate hne fun piece hpiece hmem => ?_
    exact absurd (h piece hpiece _ hmem) (by decide)
  have hforms : pieces.mapM asciiForm? = some (pieces.map fun piece => (piece, piece)) := by
    have hself : (pieces.map fun piece => (piece, piece)).map Prod.fst = pieces := by
      rw [List.map_map]
      exact List.map_id _
    have hone : ∀ form ∈ pieces.map fun piece => (piece, piece),
        asciiForm? form.1 = some form := by
      intro form hform
      obtain ⟨piece, hpiece, rfl⟩ := List.mem_map.1 hform
      exact asciiForm?_figures (h piece hpiece)
    have hall := mapM_map_some (f := asciiForm?) (g := Prod.fst) hone
    rwa [hself] at hall
  have hleft : ((pieces.map fun piece => (piece, piece)).any fun p => hasRightToLeft p.2)
      = false := by
    refine List.any_eq_false.2 fun form hform => ?_
    obtain ⟨piece, hpiece, rfl⟩ := List.mem_map.1 hform
    simp [hasRightToLeft_figures (h piece hpiece)]
  rw [toAscii?_of_ascii (List.all_eq_true.2 fun c hc => (hplain c hc).1), hlower]
  unfold ofMapped?
  rw [hallowed, if_neg Bool.false_ne_true, hlabels, hforms, Option.bind_some, hleft,
    Bool.false_and, if_neg Bool.false_ne_true, List.map_map]
  exact congrArg some (congrArg joinLabels (List.map_id pieces))

end Federation.Url.Name
