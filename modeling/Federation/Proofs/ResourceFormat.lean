/-
  Federation.Proofs.ResourceFormat
  ────────────────────────────────
  **FORMATS READ BACK.**

  A format is written with a blank between kind and version, and read with a
  colon or a blank there.  So the text of a format is read back only where
  the cut falls between the two again: where the kind is one word and the
  version has no colon.  That is so of every format that was read from a text
  without a colon.  Any other format is read back as a different one, or not
  at all where nothing follows the colon.

  Main results:
    * `parted_of_read` — what a format that was read consists of;
    * `read_text` — a plain format is read back;
    * `reread` — what becomes of the text of any format that was read;
    * `reread_iff` — which formats are read back, and which are refused.
-/
import Federation.Proofs.Text.Fold
import Federation.Proofs.Text.Split
import Federation.ResourceFormat

namespace Federation.ResourceFormat

open Text (Unpadded isBlank splitOnce trim)

/-! ## §1. Formats that were read. -/

/-- A kind of one word, and a version without a colon. -/
structure Plain (f : ResourceFormat) : Prop where
  word : ∀ c ∈ f.kind.toList, isBlank c = false
  uncut : ':' ∉ f.version.toList

instance (f : ResourceFormat) : Decidable f.Plain :=
  decidable_of_iff ((f.kind.toList.all fun c => !isBlank c) = true ∧ ':' ∉ f.version.toList)
    ⟨fun ⟨word, uncut⟩ => ⟨by simpa using word, uncut⟩, fun h => ⟨by simpa using h.word, h.uncut⟩⟩

/-- Two parts that are there, without outer blanks and with no colon in the first one. -/
structure Parted (f : ResourceFormat) : Prop where
  kind_ne : f.kind ≠ ""
  version_ne : f.version ≠ ""
  kind_unpadded : Unpadded f.kind
  version_unpadded : Unpadded f.version
  kind_uncut : ':' ∉ f.kind.toList

/-- The kind ends at the first colon. -/
theorem parts?_colon {before : String} (h : ':' ∉ before.toList) (after : String) :
    parts? (before ++ ":" ++ after) = some (before, after) := by
  unfold parts?
  rw [show (":" : String) = String.singleton ':' from rfl,
    Text.splitOnce_append (Text.beq_false_of_not_mem h) (beq_self_eq_true ':'), Option.some_or]

/-- Where there is no colon, the kind ends at the first blank. -/
theorem parts?_blank {before after : String} {c : Char} (hc : isBlank c = true)
    (hbefore : ∀ x ∈ before.toList, isBlank x = false)
    (h : ':' ∉ (before ++ String.singleton c ++ after).toList) :
    parts? (before ++ String.singleton c ++ after) = some (before, after) := by
  unfold parts?
  rw [Text.splitOnce_eq_none_iff.2 (Text.beq_false_of_not_mem h), Option.none_or,
    Text.splitOnce_append hbefore hc]

/-- How a text is parted: at its first colon, or else at its first blank. -/
theorem parts?_cases {t kind version : String} (h : parts? t = some (kind, version)) :
    (∃ c, t = kind ++ String.singleton c ++ version) ∧ ':' ∉ kind.toList ∧
      (':' ∉ t.toList → ∀ c ∈ kind.toList, isBlank c = false) := by
  unfold parts? at h
  cases hcolon : splitOnce (· == ':') t with
  | some found =>
      rw [hcolon, Option.some_or] at h
      obtain rfl := Option.some.inj h
      obtain ⟨c, hc, rfl, hkind⟩ := Text.splitOnce_eq_some hcolon
      refine ⟨⟨c, rfl⟩, fun hmem => absurd (hkind ':' hmem) (by decide), fun habsent => ?_⟩
      -- The text was cut at a colon, so there is one.
      rw [eq_of_beq hc] at habsent
      simp at habsent
  | none =>
      rw [hcolon, Option.none_or] at h
      obtain ⟨c, -, rfl, hkind⟩ := Text.splitOnce_eq_some h
      refine ⟨⟨c, rfl⟩, fun hmem => ?_, fun _ => hkind⟩
      exact absurd (Text.splitOnce_eq_none_iff.1 hcolon ':' (by simp [hmem])) (by decide)

/-- What is read is made of two parts of the text. -/
theorem parts_of_read {s : String} {f : ResourceFormat} (h : read s = .ok f) :
    ∃ kind version, parts? (trim s) = some (kind, version) ∧
      f = ⟨trim kind, trim version⟩ ∧ trim kind ≠ "" ∧ trim version ≠ "" := by
  unfold read at h
  split at h
  · cases h
  · rename_i kind version hparts
    dsimp only at h
    split at h
    · cases h
    · rename_i hthere
      rw [Bool.or_eq_true, not_or, String.isEmpty_iff, String.isEmpty_iff] at hthere
      exact ⟨kind, version, hparts, (Except.ok.inj h).symm, hthere.1, hthere.2⟩

/-- **What a format that was read consists of**; without a colon in the text it is plain. -/
theorem parted_of_read {s : String} {f : ResourceFormat} (h : read s = .ok f) :
    f.Parted ∧ (':' ∉ s.toList → f.Plain) := by
  obtain ⟨kind, version, hparts, rfl, hkind, hversion⟩ := parts_of_read h
  obtain ⟨⟨c, htext⟩, huncut, hword⟩ := parts?_cases hparts
  refine ⟨⟨hkind, hversion, Text.unpadded_trim kind, Text.unpadded_trim version,
    fun hmem => huncut ((Text.trim_sublist kind).subset hmem)⟩, fun habsent => ?_⟩
  have htrimmed : ':' ∉ (trim s).toList := fun hmem => habsent ((Text.trim_sublist s).subset hmem)
  refine ⟨fun x hx => hword htrimmed x ((Text.trim_sublist kind).subset hx), fun hmem => ?_⟩
  rw [htext] at htrimmed
  exact htrimmed (by simp [(Text.trim_sublist version).subset hmem])

/-! ## §2. Their texts. -/

/-- **What becomes of the text of a format** that is cut so. -/
theorem read_text_of_parts {f : ResourceFormat} (h : f.Parted) {kind version : String}
    (hparts : parts? f.text = some (kind, version)) :
    read f.text = if (trim kind).isEmpty || (trim version).isEmpty then .error ⟨f.text⟩
      else .ok ⟨trim kind, trim version⟩ := by
  have hunpadded : trim f.text = f.text :=
    Text.trim_eq_self_iff.2 (h.kind_unpadded.append h.version_unpadded h.kind_ne h.version_ne " ")
  unfold read
  rw [hunpadded, hparts]

/-- **A plain format is read back.** -/
theorem read_text {f : ResourceFormat} (h : f.Parted) (plain : f.Plain) : read f.text = .ok f := by
  have habsent : ':' ∉ f.text.toList := by
    unfold text
    simp [h.kind_uncut, plain.uncut]
  have hparts : parts? f.text = some (f.kind, f.version) :=
    parts?_blank (c := ' ') (by decide) plain.word habsent
  rw [read_text_of_parts h hparts, Text.trim_eq_self_iff.2 h.kind_unpadded,
    Text.trim_eq_self_iff.2 h.version_unpadded, if_neg]
  rw [Bool.or_eq_true, not_or, String.isEmpty_iff, String.isEmpty_iff]
  exact ⟨h.kind_ne, h.version_ne⟩

/-- A version that is cut at its colon is not read back: what stands before the colon joins the
kind. -/
theorem read_text_colon {f : ResourceFormat} (h : f.Parted) {before after : String}
    (hbefore : ':' ∉ before.toList) (hversion : f.version = before ++ ":" ++ after) :
    read f.text = if after = "" then .error ⟨f.text⟩
      else .ok ⟨trim (f.kind ++ " " ++ before), trim after⟩ := by
  have hkind : (trim (f.kind ++ " " ++ before)).isEmpty = false := by
    simp [Text.isEmpty_trim, h.kind_unpadded.not_isBlankText h.kind_ne]
  have htext : f.text = f.kind ++ " " ++ before ++ ":" ++ after := by
    unfold text
    rw [hversion]
    simp only [String.append_assoc]
  have hparts : parts? f.text = some (f.kind ++ " " ++ before, after) := by
    rw [htext]
    exact parts?_colon (by simp [h.kind_uncut, hbefore]) after
  rw [read_text_of_parts h hparts, hkind, Bool.false_or]
  by_cases hafter : after = ""
  · subst hafter
    rfl
  · have hunpadded : Unpadded (before ++ ":" ++ after) := hversion ▸ h.version_unpadded
    rw [if_neg hafter, Text.isEmpty_trim, hunpadded.not_isBlankText_end hafter]
    rfl

/-- A kind of several words is not read back: what stands after its first word joins the
version. -/
theorem read_text_words {f : ResourceFormat} (h : f.Parted) (huncut : ':' ∉ f.version.toList)
    {before after : String} {c : Char} (hc : isBlank c = true)
    (hbefore : ∀ x ∈ before.toList, isBlank x = false)
    (hkind : f.kind = before ++ String.singleton c ++ after) :
    read f.text = .ok ⟨trim before, trim (after ++ " " ++ f.version)⟩ := by
  have htext : f.text = before ++ String.singleton c ++ (after ++ " " ++ f.version) := by
    unfold text
    rw [hkind]
    simp only [String.append_assoc]
  have habsent : ':' ∉ f.text.toList := by
    unfold text
    simp [h.kind_uncut, huncut]
  have hparts : parts? f.text = some (before, after ++ " " ++ f.version) := by
    rw [htext] at habsent ⊢
    exact parts?_blank hc hbefore habsent
  have hword : Text.isBlankText before = false := by
    -- The kind does not begin with a blank, so something stands before the first one.
    cases hchars : before.toList with
    | nil =>
        have hfirst := h.kind_unpadded.1 c (by simp [hkind, hchars])
        rw [hc] at hfirst
        cases hfirst
    | cons x rest =>
        unfold Text.isBlankText
        rw [hchars, List.all_cons, hbefore x (by simp [hchars]), Bool.false_and]
  have hrest : Text.isBlankText (after ++ " " ++ f.version) = false := by
    simp [h.version_unpadded.not_isBlankText h.version_ne]
  rw [read_text_of_parts h hparts, Text.isEmpty_trim, Text.isEmpty_trim, hword, hrest]
  rfl

/-- A version with a colon is cut at the first one. -/
theorem exists_colon {s : String} (h : ':' ∈ s.toList) :
    ∃ before after, ':' ∉ before.toList ∧ s = before ++ ":" ++ after := by
  obtain ⟨before, c, after, hc, hs, hbefore⟩ := Text.exists_cut ⟨':', h, beq_self_eq_true ':'⟩
  obtain rfl := eq_of_beq hc
  exact ⟨before, after, fun hmem => absurd (hbefore ':' hmem) (by decide), hs⟩

/-- What becomes of the text of a format: it is read as the format, as another one of which a
part is shorter, or refused for the colon at the end. -/
inductive Reread (f : ResourceFormat) : Except ResourceFormatFault ResourceFormat → Prop
  | same (plain : f.Plain) : Reread f (.ok f)
  | shorterKind {g : ResourceFormat} (less : g.kind.toList.length < f.kind.toList.length) :
      Reread f (.ok g)
  | shorterVersion {g : ResourceFormat}
      (less : g.version.toList.length < f.version.toList.length) : Reread f (.ok g)
  | refused {before : String} {fault : ResourceFormatFault} (uncut : ':' ∉ before.toList)
      (version : f.version = before ++ ":") : Reread f (.error fault)

/-- **What becomes of the text of a format that was read.** -/
theorem reread {f : ResourceFormat} (h : f.Parted) : Reread f (read f.text) := by
  have hlength (s : String) : (trim s).toList.length ≤ s.toList.length :=
    (Text.trim_sublist s).length_le
  by_cases hcolon : ':' ∈ f.version.toList
  · obtain ⟨before, after, hbefore, hversion⟩ := exists_colon hcolon
    rw [read_text_colon h hbefore hversion]
    split
    · rename_i hnone
      exact .refused hbefore (by rw [hversion, hnone, String.append_empty])
    · refine .shorterVersion (Nat.lt_of_le_of_lt (hlength after) ?_)
      simp only [hversion, String.toList_append, List.length_append, String.reduceToList,
        List.length_singleton]
      omega
  · by_cases hplain : f.Plain
    · rw [read_text h hplain]
      exact .same hplain
    · have hblank : ∃ c ∈ f.kind.toList, isBlank c = true := by
        refine Decidable.byContradiction fun hnone => hplain ⟨fun c hc => ?_, hcolon⟩
        exact Bool.of_not_eq_true fun hblank => hnone ⟨c, hc, hblank⟩
      obtain ⟨before, c, after, hc, hkind, hbefore⟩ := Text.exists_cut hblank
      rw [read_text_words h hcolon hc hbefore hkind]
      refine .shorterKind (Nat.lt_of_le_of_lt (hlength before) ?_)
      simp [hkind]

/-! ## §3. Reading again. -/

/-- **Which formats are read back from their texts**: those with a kind of one word and a version
without a colon, and then as they are.  Every format that was read from a text without a colon is
so.  The text of any other format is read as one that does not agree with it, or refused, which
happens where the first colon of the version is its last character. -/
theorem reread_iff {s : String} {f : ResourceFormat} (h : read s = .ok f) :
    ((∃ g, read f.text = .ok g ∧ g.agrees f = true) ↔ f.Plain) ∧
    (f.Plain → read f.text = .ok f) ∧
    ((∃ fault, read f.text = .error fault) ↔
      ∃ before, ':' ∉ before.toList ∧ f.version = before ++ ":") ∧
    (':' ∉ s.toList → f.Plain) := by
  obtain ⟨parted, hplain⟩ := parted_of_read h
  have hback := read_text parted
  have hreread := reread parted
  refine ⟨⟨?_, fun plain => ⟨f, hback plain, agrees_refl f⟩⟩, hback, ⟨?_, ?_⟩, hplain⟩
  · rintro ⟨g, hread, hagrees⟩
    rw [hread] at hreread
    -- Formats that agree have parts of the same lengths.
    obtain ⟨hkinds, hversions⟩ := Bool.and_eq_true_iff.1 hagrees
    cases hreread with
    | same plain => exact plain
    | shorterKind less => exact absurd (Text.length_of_sameFolded hkinds) (Nat.ne_of_lt less)
    | shorterVersion less =>
        exact absurd (Text.length_of_sameFolded hversions) (Nat.ne_of_lt less)
  · rintro ⟨fault, hrefused⟩
    rw [hrefused] at hreread
    cases hreread with | refused uncut version => exact ⟨_, uncut, version⟩
  · rintro ⟨before, hbefore, hversion⟩
    have hcut : f.version = before ++ ":" ++ "" := by rw [hversion, String.append_empty]
    rw [read_text_colon parted hbefore hcut, if_pos rfl]
    exact ⟨_, rfl⟩

/-- A version with a blank in it is read back. -/
theorem reread_spaced :
    read " geni : 3 beta" = .ok ⟨"geni", "3 beta"⟩ ∧
      read (text ⟨"geni", "3 beta"⟩) = .ok ⟨"geni", "3 beta"⟩ := by
  have hread : read " geni : 3 beta" = .ok ⟨"geni", "3 beta"⟩ := by decide +kernel
  obtain ⟨-, hback, -, -⟩ := reread_iff hread
  exact ⟨hread, hback (by decide +kernel)⟩

/-- The text of a format whose kind is two words is read as another format. -/
theorem text_misread : ¬∀ (s : String) (f : ResourceFormat), read s = .ok f →
    ∃ g, read f.text = .ok g ∧ g.agrees f = true := by
  intro h
  obtain ⟨g, hread, hagrees⟩ := h "GENI AM:3" ⟨"GENI AM", "3"⟩ (by decide +kernel)
  have hmisread : read (text ⟨"GENI AM", "3"⟩) = .ok ⟨"GENI", "AM 3"⟩ := by decide +kernel
  obtain rfl := Except.ok.inj (hmisread.symm.trans hread)
  exact absurd hagrees (by decide +kernel)

end Federation.ResourceFormat
