/-
  Federation.Proofs.Text.Lines
  ────────────────────────────
  **LINES.**

  A text has one line more than it has line ends.  Texts that are put
  together with line ends between them keep their own lines, so as many
  lines come of them as there are texts only where each of them is one line.

  Main results:
    * `length_lines` — how many lines a text has;
    * `lines_intercalate` — the lines of texts that are put together;
    * `length_flatMap_lines_iff` — when there is one line for each text.
-/
import Federation.Proofs.Text.Split

namespace Federation.Text

/-! ## §1. The lines of a text. -/

/-- The pieces of a text between its line ends. -/
def lines (s : String) : List String := (splitAll (· == '\n') s.toList).map String.ofList

/-- Whether a text has no line end. -/
def OneLine (s : String) : Prop := '\n' ∉ s.toList

instance (s : String) : Decidable (OneLine s) := inferInstanceAs (Decidable ('\n' ∉ s.toList))

theorem length_splitAll (c : Char) (cs : List Char) :
    (splitAll (· == c) cs).length = cs.count c + 1 := by
  induction cs with
  | nil => rfl
  | cons x cs ih =>
      rw [splitAll, List.count_cons]
      by_cases hx : (x == c) = true
      · rw [if_pos hx, if_pos hx, List.length_cons, ih]
      · rw [if_neg hx, if_neg hx]
        -- There is a first piece, which the character joins.
        cases hpieces : splitAll (· == c) cs with
        | nil =>
            rw [hpieces] at ih
            cases ih
        | cons piece rest =>
            rw [hpieces] at ih
            exact ih

/-- **A text has one line more than line ends.** -/
theorem length_lines (s : String) : (lines s).length = s.toList.count '\n' + 1 := by
  unfold lines
  rw [List.length_map, length_splitAll]

theorem length_lines_eq_one_iff {s : String} : (lines s).length = 1 ↔ OneLine s := by
  rw [length_lines]
  unfold OneLine
  rw [← List.count_eq_zero]
  omega

/-- A text without line ends is its only line. -/
theorem lines_of_oneLine {s : String} (h : OneLine s) : lines s = [s] := by
  have hpieces : splitAll (· == '\n') (['\n'].intercalate [s.toList]) = [s.toList] :=
    splitAll_intercalate (List.cons_ne_nil _ _) fun piece hpiece => by
      obtain rfl := List.mem_singleton.1 hpiece
      exact h
  rw [List.intercalate_singleton] at hpieces
  unfold lines
  rw [hpieces, List.map_singleton, String.ofList_toList]

theorem lines_append (s t : String) : lines (s ++ "\n" ++ t) = lines s ++ lines t := by
  have htext : (s ++ "\n" ++ t).toList = s.toList ++ '\n' :: t.toList := by simp
  have hcut : splitAll (· == '\n') (s.toList ++ '\n' :: t.toList)
      = splitAll (· == '\n') s.toList ++ splitAll (· == '\n') t.toList := by
    simp only [splitAll_eq_splitOnP]
    exact List.splitOnP_append_cons _ _ (beq_self_eq_true '\n')
  unfold lines
  rw [htext, hcut, List.map_append]

/-- **Texts keep their lines** when they are put together with line ends between them. -/
theorem lines_intercalate {ss : List String} (h : ss ≠ []) :
    lines ("\n".intercalate ss) = ss.flatMap lines := by
  induction ss with
  | nil => exact absurd rfl h
  | cons s ss ih =>
      cases ss with
      | nil => simp
      | cons t ss =>
          have hne : t :: ss ≠ [] := List.cons_ne_nil t ss
          rw [String.intercalate_cons_of_ne_nil hne, lines_append, ih hne]
          rfl

theorem length_le_flatMap_lines (ss : List String) : ss.length ≤ (ss.flatMap lines).length := by
  induction ss with
  | nil => exact Nat.le_refl 0
  | cons s ss ih =>
      have hone := length_lines s
      rw [List.flatMap_cons, List.length_append, List.length_cons]
      omega

/-- **There are as many lines as texts** exactly where each text is one line. -/
theorem length_flatMap_lines_iff {ss : List String} :
    (ss.flatMap lines).length = ss.length ↔ ∀ s ∈ ss, OneLine s := by
  induction ss with
  | nil => simp
  | cons s ss ih =>
      -- No text has less than one line, so none makes up for another one's lines.
      have hone := length_lines s
      have hrest := length_le_flatMap_lines ss
      have hfirst := length_lines_eq_one_iff (s := s)
      rw [List.flatMap_cons, List.length_append, List.length_cons, List.forall_mem_cons, ← hfirst]
      constructor
      · intro h
        exact ⟨by omega, ih.1 (by omega)⟩
      · rintro ⟨h, hall⟩
        have hcount := ih.2 hall
        omega

theorem flatMap_lines_of_oneLine {ss : List String} (h : ∀ s ∈ ss, OneLine s) :
    ss.flatMap lines = ss := by
  induction ss with
  | nil => rfl
  | cons s ss ih =>
      rw [List.flatMap_cons, lines_of_oneLine (h s List.mem_cons_self),
        ih fun t ht => h t (List.mem_cons_of_mem s ht), List.singleton_append]

/-! ## §2. Texts of one line. -/

@[simp] theorem oneLine_append {s t : String} : OneLine (s ++ t) ↔ OneLine s ∧ OneLine t := by
  unfold OneLine
  simp

@[simp] theorem oneLine_nat (n : Nat) : OneLine n.repr := by
  intro hmem
  rw [Nat.toList_repr] at hmem
  exact absurd (Nat.isDigit_of_mem_toDigits (by decide) (by decide) hmem) (by decide)

@[simp] theorem oneLine_int (n : Int) : OneLine n.repr := by
  cases n with
  | ofNat m => exact oneLine_nat m
  | negSucc m => exact oneLine_append.2 ⟨by decide, oneLine_nat (m + 1)⟩

/-- A list with commas is one line where its items are. -/
@[simp] theorem oneLine_commaList {ss : List String} :
    OneLine (commaList ss) ↔ ∀ s ∈ ss, OneLine s := by
  unfold commaList
  induction ss with
  | nil => simp [OneLine]
  | cons s ss ih =>
      cases ss with
      | nil => simp
      | cons t ss =>
          have hcomma : OneLine ", " := by decide
          rw [String.intercalate_cons_of_ne_nil (List.cons_ne_nil t ss), oneLine_append,
            oneLine_append, ih, List.forall_mem_cons, List.forall_mem_cons, List.forall_mem_cons,
            and_iff_left hcomma]

end Federation.Text
