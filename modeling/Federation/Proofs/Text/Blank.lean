/-
  Federation.Proofs.Text.Blank
  ────────────────────────────
  **TEXTS WITHOUT OUTER BLANKS.**

  Trimming takes the blanks off at both ends and nothing else.  So what it
  leaves is without outer blanks, and it leaves exactly the texts alone that
  were so before.

  Main results:
    * `unpadded_trim` — what is left after trimming;
    * `trim_eq_self_iff` — which texts are left alone.
-/
import Federation.Text.Blank
import Mathlib.Data.List.TakeWhile

namespace Federation.Text

/-- **Whether no blank stands at either end of a text.** -/
def Unpadded (s : String) : Prop :=
  (∀ c ∈ s.toList.head?, isBlank c = false) ∧ ∀ c ∈ s.toList.getLast?, isBlank c = false

/-- What is left begins with no blank. -/
theorem head_trimLeft (cs : List Char) : ∀ c ∈ (trimLeft cs).head?, isBlank c = false := by
  induction cs with
  | nil =>
      intro c hc
      cases hc
  | cons x cs ih =>
      by_cases hx : isBlank x = true
      · have hdrop : trimLeft (x :: cs) = trimLeft cs := List.dropWhile_cons_of_pos hx
        rw [hdrop]
        exact ih
      · intro c hc
        rw [trimLeft_of_head (eq_false_of_ne_true hx)] at hc
        obtain rfl := Option.some.inj hc
        exact eq_false_of_ne_true hx

theorem toList_trim (s : String) : (trim s).toList = trimChars s.toList := String.toList_ofList

/-- **What is left after trimming** has no blank at either end. -/
theorem unpadded_trim (s : String) : Unpadded (trim s) := by
  unfold Unpadded
  rw [toList_trim, trimChars, List.getLast?_reverse, List.head?_reverse]
  refine ⟨fun c hc => ?_, head_trimLeft _⟩
  -- The second pass takes nothing off the front, so the first character is that of the first pass.
  have hsuffix : trimLeft (trimLeft s.toList).reverse <:+ (trimLeft s.toList).reverse :=
    List.dropWhile_suffix isBlank
  obtain ⟨blanks, hblanks⟩ := hsuffix
  have hfront : trimLeft s.toList
      = (trimLeft (trimLeft s.toList).reverse).reverse ++ blanks.reverse := by
    rw [← List.reverse_append, hblanks, List.reverse_reverse]
  refine head_trimLeft s.toList c ?_
  rw [hfront, List.head?_append, List.head?_reverse, Option.mem_def.1 hc]
  rfl

/-- Trimming takes characters off and brings none in. -/
theorem trim_sublist (s : String) : (trim s).toList.Sublist s.toList := by
  have hleft (cs : List Char) : (trimLeft cs).Sublist cs := List.dropWhile_sublist isBlank
  have hright := (hleft (trimLeft s.toList).reverse).reverse
  rw [List.reverse_reverse] at hright
  rw [toList_trim]
  exact hright.trans (hleft s.toList)

/-- What begins and ends without blanks does so whatever stands in the middle. -/
theorem Unpadded.append {s t : String} (hs : Unpadded s) (ht : Unpadded t) (hs' : s ≠ "")
    (ht' : t ≠ "") (middle : String) : Unpadded (s ++ middle ++ t) := by
  obtain ⟨c, hc⟩ : ∃ c, s.toList.head? = some c :=
    Option.ne_none_iff_exists'.1 fun h =>
      hs' (String.toList_eq_nil_iff.1 (List.head?_eq_none_iff.1 h))
  obtain ⟨d, hd⟩ : ∃ d, t.toList.getLast? = some d :=
    Option.ne_none_iff_exists'.1 fun h =>
      ht' (String.toList_eq_nil_iff.1 (List.getLast?_eq_none_iff.1 h))
  unfold Unpadded at hs ht ⊢
  rw [String.toList_append, String.toList_append, List.append_assoc, List.head?_append, hc,
    ← List.append_assoc, List.getLast?_append, hd]
  rw [hc] at hs
  rw [hd] at ht
  exact ⟨hs.1, ht.2⟩

/-- Nothing is left of blanks alone, and something of every other text. -/
theorem isEmpty_trim (s : String) : (trim s).isEmpty = isBlankText s := by
  have hleft (cs : List Char) : trimLeft cs = [] ↔ ∀ c ∈ cs, isBlank c = true :=
    List.dropWhile_eq_nil_iff
  rw [Bool.eq_iff_iff, String.isEmpty_iff, ← String.toList_eq_nil_iff, toList_trim, trimChars,
    List.reverse_eq_nil_iff, hleft, isBlankText, List.all_eq_true, ← hleft s.toList]
  refine ⟨fun h => ?_, fun h c hc => ?_⟩
  · -- The first character that is left would be no blank.
    cases hfirst : trimLeft s.toList with
    | nil => rfl
    | cons c rest =>
        have hblank := h c (by simp [hfirst])
        have hhead := head_trimLeft s.toList c (by simp [hfirst])
        rw [hblank] at hhead
        cases hhead
  · rw [h] at hc
    cases hc

/-- **A text is left alone** exactly where no blank stands at either end. -/
theorem trim_eq_self_iff {s : String} : trim s = s ↔ Unpadded s := by
  constructor
  · intro h
    rw [← h]
    exact unpadded_trim s
  · rintro ⟨hhead, hlast⟩
    unfold trim
    rw [trimChars_of_ends hhead hlast, String.ofList_toList]

theorem trim_trim (s : String) : trim (trim s) = trim s := trim_eq_self_iff.2 (unpadded_trim s)

@[simp] theorem isBlankText_append (s t : String) :
    isBlankText (s ++ t) = (isBlankText s && isBlankText t) := by
  unfold isBlankText
  rw [String.toList_append, List.all_append]

/-- The end of a text without outer blanks is not blank. -/
theorem Unpadded.not_isBlankText_end {front back : String} (h : Unpadded (front ++ back))
    (hne : back ≠ "") : isBlankText back = false := by
  obtain ⟨c, hc⟩ : ∃ c, back.toList.getLast? = some c :=
    Option.ne_none_iff_exists'.1 fun h =>
      hne (String.toList_eq_nil_iff.1 (List.getLast?_eq_none_iff.1 h))
  have hlast : isBlank c = false := by
    refine h.2 c ?_
    rw [String.toList_append, List.getLast?_append, hc]
    rfl
  refine Bool.of_not_eq_true fun hall => ?_
  rw [List.all_eq_true.1 hall c (List.mem_of_getLast? hc)] at hlast
  cases hlast

theorem Unpadded.not_isBlankText {s : String} (h : Unpadded s) (hne : s ≠ "") :
    isBlankText s = false := by
  have hwhole : Unpadded ("" ++ s) := by rwa [String.empty_append]
  exact hwhole.not_isBlankText_end hne

instance (s : String) : Decidable (Unpadded s) := decidable_of_iff (trim s = s) trim_eq_self_iff

end Federation.Text
