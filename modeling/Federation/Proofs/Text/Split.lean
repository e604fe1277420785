/-
  Federation.Proofs.Text.Split
  ────────────────────────────
  **PIECES BETWEEN SEPARATORS.**

  Cutting at every separator is the library's `splitOnP`: the pieces hold no
  separator, and pieces that hold none are given back when the text that is
  put together from them is cut.

  Main results:
    * `splitFirst_append`, `splitFirst_eq_none` — a text with a first
      separator, and one without any; the same for `splitOnce`;
    * `splitAll_intercalate` — the pieces of a text that was put together;
    * `mem_of_mem_splitAll` — what stands in a piece;
    * `mentions_commaList` — a list in words mentions each of its pieces.
-/
import Federation.Text.Split

namespace Federation.Text

theorem splitFirst_append {p : Char → Bool} {before : List Char} {c : Char}
    (hbefore : ∀ x ∈ before, p x = false) (hc : p c = true) (after : List Char) :
    splitFirst p (before ++ c :: after) = some (before, after) := by
  induction before with
  | nil =>
      show (if p c then _ else _) = _
      rw [if_pos hc]
  | cons x before ih =>
      have hx : ¬p x = true := by
        rw [hbefore x List.mem_cons_self]
        decide
      rw [List.cons_append, splitFirst, if_neg hx,
        ih fun y hy => hbefore y (List.mem_cons_of_mem x hy)]
      rfl

theorem splitFirst_eq_none {p : Char → Bool} {cs : List Char} (h : ∀ c ∈ cs, p c = false) :
    splitFirst p cs = none := by
  cases hcut : splitFirst p cs with
  | none => rfl
  | some halves =>
      obtain ⟨c, hc, rfl, -⟩ := splitFirst_eq_some hcut
      rw [h c (by simp)] at hc
      cases hc

/-- A text that is put together from two with a separator between them is cut there. -/
theorem splitOnce_append {p : Char → Bool} {before : String} {c : Char}
    (hbefore : ∀ x ∈ before.toList, p x = false) (hc : p c = true) (after : String) :
    splitOnce p (before ++ String.singleton c ++ after) = some (before, after) := by
  have hchars : (before ++ String.singleton c ++ after).toList
      = before.toList ++ c :: after.toList := by
    rw [String.toList_append, String.toList_append, String.toList_singleton, List.append_assoc,
      List.singleton_append]
  unfold splitOnce
  rw [hchars, splitFirst_append hbefore hc]
  show some (String.ofList before.toList, String.ofList after.toList) = _
  rw [String.ofList_toList, String.ofList_toList]

/-- A text that is cut is put together from the two halves. -/
theorem splitOnce_eq_some {p : Char → Bool} {s before after : String}
    (h : splitOnce p s = some (before, after)) :
    ∃ c, p c = true ∧ s = before ++ String.singleton c ++ after ∧
      ∀ x ∈ before.toList, p x = false := by
  obtain ⟨⟨b, a⟩, hcut, heq⟩ := Option.map_eq_some_iff.1 h
  obtain ⟨rfl, rfl⟩ := Prod.mk.inj heq
  obtain ⟨c, hc, hs, hbefore⟩ := splitFirst_eq_some hcut
  refine ⟨c, hc, ?_, ?_⟩
  · rw [← String.ofList_toList (s := s), hs, ← List.singleton_append, String.ofList_append,
      String.ofList_append, ← String.append_assoc]
    rfl
  · rw [String.toList_ofList]
    exact hbefore

/-- Only a text without separators is not cut. -/
theorem splitOnce_eq_none_iff {p : Char → Bool} {s : String} :
    splitOnce p s = none ↔ ∀ c ∈ s.toList, p c = false := by
  have huncut : ∀ cs, splitFirst p cs = none → ∀ c ∈ cs, p c = false := by
    intro cs
    induction cs with
    | nil => exact fun _ c hc => nomatch hc
    | cons x cs ih =>
        intro h
        rw [splitFirst] at h
        split at h
        · cases h
        · rename_i hx
          exact List.forall_mem_cons.2
            ⟨eq_false_of_ne_true hx, ih (Option.map_eq_none_iff.1 h)⟩
  unfold splitOnce
  rw [Option.map_eq_none_iff]
  exact ⟨huncut s.toList, splitFirst_eq_none⟩

/-- A text with separators is cut at the first one. -/
theorem exists_cut {p : Char → Bool} {s : String} (h : ∃ c ∈ s.toList, p c = true) :
    ∃ before c after, p c = true ∧ s = before ++ String.singleton c ++ after ∧
      ∀ x ∈ before.toList, p x = false := by
  obtain ⟨c, hmem, hc⟩ := h
  cases hcut : splitOnce p s with
  | some halves =>
      obtain ⟨x, hx, hs, hbefore⟩ := splitOnce_eq_some hcut
      exact ⟨halves.1, x, halves.2, hx, hs, hbefore⟩
  | none =>
      rw [splitOnce_eq_none_iff.1 hcut c hmem] at hc
      cases hc

/-- A sign that is missing is not found. -/
theorem beq_false_of_not_mem {c : Char} {cs : List Char} (h : c ∉ cs) :
    ∀ x ∈ cs, (x == c) = false := fun _ hx =>
  beq_eq_false_iff_ne.2 fun heq => h (heq ▸ hx)

/-- A text has one first separator. -/
theorem append_cons_inj {c : Char} {before other after rest : List Char} (hbefore : c ∉ before)
    (hother : c ∉ other) (h : before ++ c :: after = other ++ c :: rest) :
    before = other ∧ after = rest := by
  have hcut := splitFirst_append (beq_false_of_not_mem hbefore) (beq_self_eq_true c) after
  rw [h, splitFirst_append (beq_false_of_not_mem hother) (beq_self_eq_true c)] at hcut
  obtain ⟨heq, hrest⟩ := Prod.mk.inj (Option.some.inj hcut)
  exact ⟨heq.symm, hrest.symm⟩

theorem splitAll_eq_splitOnP (p : Char → Bool) (cs : List Char) :
    splitAll p cs = cs.splitOnP p := by
  induction cs with
  | nil => rfl
  | cons c cs ih =>
      rw [splitAll, List.splitOnP_cons_eq_if_modifyHead, ih]
      split
      · rfl
      · cases hpieces : cs.splitOnP p with
        | nil => exact absurd hpieces (List.splitOnP_ne_nil p cs)
        | cons piece rest => rfl

theorem splitAll_ne_nil (p : Char → Bool) (cs : List Char) : splitAll p cs ≠ [] := by
  rw [splitAll_eq_splitOnP]
  exact List.splitOnP_ne_nil p cs

/-- **The pieces of a text that was put together.** -/
theorem splitAll_intercalate {c : Char} {pieces : List (List Char)} (hne : pieces ≠ [])
    (h : ∀ piece ∈ pieces, c ∉ piece) : splitAll (· == c) ([c].intercalate pieces) = pieces := by
  rw [splitAll_eq_splitOnP]
  exact List.splitOn_intercalate c h hne

/-- Only what is asked of the characters of the text counts. -/
theorem splitAll_congr {p q : Char → Bool} {cs : List Char} (h : ∀ c ∈ cs, p c = q c) :
    splitAll p cs = splitAll q cs := by
  induction cs with
  | nil => rfl
  | cons c cs ih =>
      rw [splitAll, splitAll, h c List.mem_cons_self,
        ih fun x hx => h x (List.mem_cons_of_mem c hx)]

/-- **What stands in a piece** stands in the text and is no separator. -/
theorem mem_of_mem_splitAll {p : Char → Bool} {cs piece : List Char}
    (h : piece ∈ splitAll p cs) : ∀ c ∈ piece, c ∈ cs ∧ p c = false := by
  induction cs generalizing piece with
  | nil =>
      obtain rfl := List.mem_singleton.1 h
      exact fun c hc => nomatch hc
  | cons x cs ih =>
      have hrest {piece : List Char} (hpiece : piece ∈ splitAll p cs) :
          ∀ c ∈ piece, c ∈ x :: cs ∧ p c = false := fun c hc =>
        ⟨List.mem_cons_of_mem x (ih hpiece c hc).1, (ih hpiece c hc).2⟩
      rw [splitAll] at h
      split at h
      · rcases List.mem_cons.1 h with rfl | h
        · exact fun c hc => nomatch hc
        · exact hrest h
      · rename_i hx
        have hfirst : x ∈ x :: cs ∧ p x = false :=
          ⟨List.mem_cons_self, eq_false_of_ne_true hx⟩
        split at h
        · obtain rfl := List.mem_singleton.1 h
          exact fun c hc => List.mem_singleton.1 hc ▸ hfirst
        · rename_i first rest hsplit
          rcases List.mem_cons.1 h with rfl | h
          · intro c hc
            rcases List.mem_cons.1 hc with rfl | hc
            · exact hfirst
            · exact hrest (hsplit ▸ List.mem_cons_self) c hc
          · exact hrest (hsplit ▸ List.mem_cons_of_mem first h)

/-- What stands in a text that was put together. -/
theorem mem_of_mem_intercalate {sep c : Char} {pieces : List (List Char)}
    (h : c ∈ [sep].intercalate pieces) : c = sep ∨ ∃ piece ∈ pieces, c ∈ piece := by
  induction pieces with
  | nil => cases h
  | cons piece pieces ih =>
      cases pieces with
      | nil =>
          rw [List.intercalate_singleton] at h
          exact .inr ⟨piece, List.mem_cons_self, h⟩
      | cons next pieces =>
          rw [List.intercalate_cons_cons, List.append_assoc, List.mem_append,
            List.mem_append] at h
          rcases h with h | h | h
          · exact .inr ⟨piece, List.mem_cons_self, h⟩
          · exact .inl (List.mem_singleton.1 h)
          · obtain hsep | ⟨other, hother, hc⟩ := ih h
            · exact .inl hsep
            · exact .inr ⟨other, List.mem_cons_of_mem piece hother, hc⟩

/-- Whether a text has another in it. -/
def Mentions (s piece : String) : Prop := ∃ before after, s = before ++ piece ++ after

theorem Mentions.prepend {s piece : String} (h : Mentions s piece) (start : String) :
    Mentions (start ++ s) piece := by
  obtain ⟨before, after, rfl⟩ := h
  exact ⟨start ++ before, after, by simp only [String.append_assoc]⟩

/-- **A list in words mentions each of its pieces.** -/
theorem mentions_commaList {pieces : List String} {piece : String} (h : piece ∈ pieces) :
    Mentions (commaList pieces) piece := by
  unfold commaList
  induction pieces with
  | nil => cases h
  | cons first pieces ih =>
      by_cases hrest : pieces = []
      · subst hrest
        rw [List.mem_singleton.1 h, String.intercalate_singleton]
        exact ⟨"", "", by simp⟩
      · rw [String.intercalate_cons_of_ne_nil hrest]
        rcases List.mem_cons.1 h with rfl | h
        · exact ⟨"", ", " ++ ", ".intercalate pieces, by simp [String.append_assoc]⟩
        · exact (ih h).prepend (first ++ ", ")

end Federation.Text
