/-
  Federation.Proofs.Url.Capitals
  ──────────────────────────────
  **NO CAPITAL COMES OUT OF A NAME.**

  A capital letter, bare or with marks, is replaced, and by no character that
  is, or holds, a capital.  Taking characters apart and putting them together
  brings no capital back.

  What the tables say of this is checked row by row; the rest follows from
  the way in which they are searched.

  Main results:
    * `not_isCapital_of_mapping?` — what a character is replaced by;
    * `compose_all` — what holds of all parts holds of the composed form;
    * `isUpper_of_replaceAll?` — what a name is replaced by.
-/
import Federation.Proofs.Collect
import Federation.Proofs.Url.Rows
import Federation.Url.Name.Label

namespace Federation.Url.Name

/-! ## §1. Capitals. -/

/-- The bits of a number, and those of all that is composed from them. -/
def addComposed : List Row → Nat → Nat
  | [], bits => bits
  | r :: rows, bits =>
      if bits.testBit r.first then addComposed rows (bits ||| (1 <<< r.getD 2 0))
      else addComposed rows bits

/-- The letters from A to Z and all that is composed from them, as the bits of a number. -/
def capitals : Nat := addComposed Tables.composedRows (0x3ffffff <<< 65)

/-- **Whether a character is a capital**, bare or with marks. -/
def IsCapital (c : Char) : Prop := capitals.testBit c.toNat = true

/-! ## §2. What the tables say. -/

/-- The last number of the range of a row that gives one. -/
def Row.second (r : Row) : Nat := r.getD 1 0

/-- Whether each row is in order, and after the one before it. -/
def inOrder (last : Row → Nat) (rows : List Row) : Bool :=
  (rows.all fun r => !r.isEmpty && Nat.ble r.first (last r)) &&
    ((rows.zip rows.tail).all fun p => Nat.blt (last p.1) p.2.first) &&
    Nat.blt rows.length (Nat.pow 2 31)

/-- Whether no capital stands in for the character of a row. -/
def replacesWell (r : Row) : Bool := r.tail.all fun t => !capitals.testBit t

/-- Whether no capital stands in for a character of the run of a row. -/
def shiftsWell : Row → Bool
  | [first, last, step, target] =>
      (List.range (last + 1 - first)).all fun i =>
        !(i % step == 0) || !capitals.testBit (target + i)
  | _ => false

/-- Whether what is composed from a capital counts as one, and no half or whole is bare. -/
def composesWell : Row → Bool
  | [a, b, c] =>
      (!capitals.testBit a || capitals.testBit c) && Nat.ble 0x300 b && Nat.ble 0xc0 c
  | _ => false

/-- Whether the run of a row holds a character. -/
def covers (n : Nat) : Row → Bool
  | [first, last, step, _] => Nat.ble first n && Nat.ble n last && (n - first) % step == 0
  | _ => false

/-- Whether a character that is a capital has a row. -/
def covered (n : Nat) : Bool :=
  !capitals.testBit n ||
    (Tables.shiftedRows.any (covers n) || Tables.replacedRows.any fun r => Row.first r == n)

/-- **What the tables say**, all checked at once: both that are searched by ranges are in order, no
row leads to a capital but from another one, and every capital has a row.  The highest capital with
marks is U+1EF8. -/
theorem tables_checked :
    (inOrder Row.first Tables.replacedRows = true ∧
        inOrder Row.second Tables.shiftedRows = true) ∧
      (Tables.replacedRows.all replacesWell = true ∧ Tables.shiftedRows.all shiftsWell = true ∧
        Tables.composedRows.all composesWell = true) ∧
      (∀ i ∈ List.range 26, capitals.testBit (65 + i) = true) ∧ capitals.testBit 0 = false ∧
      capitals >>> 7936 = 0 ∧ (List.range 7936).all covered = true := by decide +kernel

/-- A table is in order where each row is, after the one before it. -/
theorem ordered_of_inOrder {last : Row → Nat} {rows : List Row} (h : inOrder last rows = true) :
    Ordered last rows := by
  unfold inOrder at h
  rw [Bool.and_eq_true, Bool.and_eq_true, Nat.blt_eq] at h
  obtain ⟨⟨hformed, hapart⟩, few⟩ := h
  have formed : ∀ r ∈ rows, r ≠ [] ∧ Row.first r ≤ last r := by
    intro r hr
    have hrow := List.all_eq_true.1 hformed r hr
    rw [Bool.and_eq_true, Bool.not_eq_true', List.isEmpty_eq_false_iff] at hrow
    exact ⟨hrow.1, Nat.le_of_ble_eq_true hrow.2⟩
  refine ⟨?_, formed, few⟩
  -- One row after the other is in order, and so is each after all before it.
  have : Trans (fun r s : Row => last r < s.first ∧ s.first ≤ last s)
      (fun r s : Row => last r < s.first ∧ s.first ≤ last s)
      (fun r s : Row => last r < s.first ∧ s.first ≤ last s) :=
    ⟨fun hrs hst => ⟨by omega, hst.2⟩⟩
  have hchain : rows.IsChain fun r s => last r < s.first ∧ s.first ≤ last s := by
    refine List.isChain_iff_getElem.2 fun i hi => ?_
    have hpair : (rows[i], rows[i + 1]) ∈ rows.zip rows.tail := by
      refine List.mem_iff_getElem.2 ⟨i, ?_, ?_⟩
      · rw [List.length_zip, List.length_tail]
        omega
      · rw [List.getElem_zip, List.getElem_tail]
    have hlt := List.all_eq_true.1 hapart _ hpair
    rw [Nat.blt_eq] at hlt
    exact ⟨hlt, (formed _ (List.getElem_mem hi)).2⟩
  exact (List.isChain_iff_pairwise.1 hchain).imp fun h => h.1

theorem ordered_replaced : Ordered Row.first Tables.replacedRows :=
  ordered_of_inOrder tables_checked.1.1

theorem ordered_shifted : Ordered Row.second Tables.shiftedRows :=
  ordered_of_inOrder tables_checked.1.2

theorem isCapital_of_isUpper {c : Char} (h : c.isUpper = true) : IsCapital c := by
  obtain ⟨-, -, hbare, -⟩ := tables_checked
  have hupper : 65 ≤ c.toNat ∧ c.toNat ≤ 90 := by
    unfold Char.isUpper at h
    exact of_decide_eq_true h
  have hbit := hbare (c.toNat - 65) (List.mem_range.2 (by omega))
  rwa [show 65 + (c.toNat - 65) = c.toNat by omega] at hbit

/-- A number that is no character stands for the first one. -/
theorem toNat_ofNat_or (n : Nat) : (Char.ofNat n).toNat = n ∨ (Char.ofNat n).toNat = 0 := by
  by_cases hvalid : n.isValidChar
  · exact .inl (congrArg Char.toNat (dif_pos hvalid))
  · exact .inr (congrArg Char.toNat (dif_neg hvalid))

theorem not_isCapital_ofNat {n : Nat} (h : capitals.testBit n = false) :
    ¬IsCapital (Char.ofNat n) := by
  obtain ⟨-, -, -, hzero, -⟩ := tables_checked
  unfold IsCapital
  rcases toNat_ofNat_or n with heq | heq
  · simp [heq, h]
  · simp [heq, hzero]

/-! ## §3. What a character is replaced by. -/

theorem not_isCapital_of_replaced {first : Nat} {numbers : List Nat}
    (h : first :: numbers ∈ Tables.replacedRows) :
    ∀ t ∈ numbers.map Char.ofNat, ¬IsCapital t := by
  intro t ht
  obtain ⟨n, hn, rfl⟩ := List.mem_map.1 ht
  obtain ⟨-, ⟨hall, -⟩, -⟩ := tables_checked
  have hwell := List.all_eq_true.1 (List.all_eq_true.1 hall _ h) n hn
  rw [Bool.not_eq_true'] at hwell
  exact not_isCapital_ofNat hwell

theorem not_isCapital_of_shifted {first last step target n : Nat}
    (h : [first, last, step, target] ∈ Tables.shiftedRows) (hto : n ≤ last)
    (hstep : (n - first) % step = 0) : ¬IsCapital (Char.ofNat (target + (n - first))) := by
  have hrange : first ≤ last := (ordered_shifted.formed _ h).2
  obtain ⟨-, ⟨-, hall, -⟩, -⟩ := tables_checked
  have hwell := List.all_eq_true.1 (List.all_eq_true.1 hall _ h) (n - first)
    (List.mem_range.2 (by omega))
  rw [hstep, beq_self_eq_true, Bool.not_true, Bool.false_or, Bool.not_eq_true'] at hwell
  exact not_isCapital_ofNat hwell

theorem covers_iff {first last step target n : Nat} : covers n [first, last, step, target] = true ↔
    first ≤ n ∧ n ≤ last ∧ (n - first) % step = 0 := by
  unfold covers
  rw [Bool.and_eq_true, Bool.and_eq_true, beq_iff_eq, Nat.ble_eq, Nat.ble_eq, and_assoc]

/-- The run that holds a character is found. -/
theorem rowFor_of_covers {row : Row} {n : Nat} (hrow : row ∈ Tables.shiftedRows)
    (h : covers n row = true) : rowFor shifted n = some row := by
  refine rowFor_eq_some ordered_shifted hrow ?_
  match row, h with
  | [first, last, step, target], h =>
      obtain ⟨hfrom, hto, -⟩ := covers_iff.1 h
      exact ⟨hfrom, hto⟩

/-- **Every capital is replaced**: with its run, or by itself. -/
theorem replaced_of_isCapital {n : Nat} (h : capitals.testBit n = true) :
    (∃ row ∈ Tables.shiftedRows, covers n row = true) ∨
      ∃ targets, n :: targets ∈ Tables.replacedRows := by
  obtain ⟨-, -, -, -, hend, hall⟩ := tables_checked
  have hlow : n < 7936 := by
    by_contra hhigh
    have hbit : (capitals >>> 7936).testBit (n - 7936) = true := by
      rw [Nat.testBit_shiftRight, Nat.add_sub_cancel' (Nat.le_of_not_lt hhigh), h]
    rw [hend, Nat.zero_testBit] at hbit
    cases hbit
  have hcovered := List.all_eq_true.1 hall n (List.mem_range.2 hlow)
  unfold covered at hcovered
  rw [h, Bool.not_true, Bool.false_or, Bool.or_eq_true, List.any_eq_true, List.any_eq_true]
    at hcovered
  refine hcovered.imp id ?_
  rintro ⟨row, hrow, hfirst⟩
  obtain ⟨first, targets, rfl⟩ :=
    List.exists_cons_of_ne_nil (ordered_replaced.formed row hrow).1
  obtain rfl : first = n := beq_iff_eq.1 hfirst
  exact ⟨targets, hrow⟩

theorem not_isCapital_of_plain {n : Nat} {targets : List Char} (hn : capitals.testBit n = false)
    (h : mapping?.plain n = some targets) : ∀ t ∈ targets, ¬IsCapital t := by
  unfold mapping?.plain at h
  split at h
  · cases h
  · split at h
    · obtain rfl := Option.some.inj h
      exact fun t ht => nomatch ht
    · obtain rfl := Option.some.inj h
      exact fun t ht => List.mem_singleton.1 ht ▸ not_isCapital_ofNat hn

/-- A character without a row of its own. -/
theorem not_isCapital_of_unlisted {n : Nat} {targets : List Char}
    (hn : capitals.testBit n = true → ∃ row ∈ Tables.shiftedRows, covers n row = true)
    (h : mapping?.unlisted n = some targets) : ∀ t ∈ targets, ¬IsCapital t := by
  unfold mapping?.unlisted at h
  split at h
  · rename_i first last step target hfound
    split at h
    · rename_i hrun
      obtain rfl := Option.some.inj h
      exact fun t ht => List.mem_singleton.1 ht ▸
        not_isCapital_of_shifted (mem_of_rowFor hfound) hrun.1 hrun.2
    · rename_i hrun
      refine not_isCapital_of_plain (eq_false_of_ne_true fun hbit => hrun ?_) h
      obtain ⟨row, hrow, hcovers⟩ := hn hbit
      obtain rfl := Option.some.inj ((rowFor_of_covers hrow hcovers).symm.trans hfound)
      exact (covers_iff.1 hcovers).2
  · rename_i hother
    refine not_isCapital_of_plain (eq_false_of_ne_true fun hbit => ?_) h
    obtain ⟨row, hrow, hcovers⟩ := hn hbit
    match row, hcovers with
    | [first, last, step, target], hcovers =>
        exact hother _ _ _ _ (rowFor_of_covers hrow hcovers)

/-- **No capital stands in for a character.** -/
theorem not_isCapital_of_mapping? {c : Char} {targets : List Char}
    (h : mapping? c = some targets) : ∀ t ∈ targets, ¬IsCapital t := by
  -- A row of its own is found where there is one.
  have hown {numbers : List Nat} (hrow : c.toNat :: numbers ∈ Tables.replacedRows) :
      rowFor replaced c.toNat = some (c.toNat :: numbers) :=
    rowFor_eq_some ordered_replaced hrow ⟨Nat.le_refl _, Nat.le_refl _⟩
  unfold mapping? at h
  dsimp only at h
  split at h
  · rename_i first numbers hfound
    split at h
    · obtain rfl := Option.some.inj h
      exact not_isCapital_of_replaced (mem_of_rowFor hfound)
    · rename_i hfirst
      refine not_isCapital_of_unlisted (fun hbit => ?_) h
      refine (replaced_of_isCapital hbit).resolve_right fun ⟨numbers', hrow⟩ => hfirst ?_
      rw [hown hrow] at hfound
      exact (List.cons.inj (Option.some.inj hfound)).1.symm
  · rename_i hother
    refine not_isCapital_of_unlisted (fun hbit => ?_) h
    exact (replaced_of_isCapital hbit).resolve_right fun ⟨numbers, hrow⟩ => hother _ _ (hown hrow)

/-! ## §4. Taking apart. -/

/-- What is composed, is so by a row. -/
theorem exists_of_halves? {c a b : Char} (h : halves? c = some (a, b)) :
    ∃ m n, [m, n, c.toNat] ∈ Tables.composedRows ∧ a = Char.ofNat m ∧ b = Char.ofNat n := by
  unfold halves? at h
  split at h
  · rename_i whole m n hfound
    obtain ⟨rfl, hparts⟩ := Option.ite_none_right_eq_some.1 h
    obtain ⟨rfl, rfl⟩ := Prod.mk.inj (Option.some.inj hparts)
    have hmem := List.mem_mergeSort.1 (mem_of_rowFor hfound)
    obtain ⟨row, hrow, hsame⟩ := List.mem_filterMap.1 hmem
    split at hsame
    · obtain ⟨rfl, rfl, rfl⟩ : _ ∧ _ ∧ _ := by simpa using hsame
      exact ⟨_, _, hrow, rfl, rfl⟩
    · cases hsame
  · cases h

/-- A whole of the table is no bare capital. -/
theorem exists_of_whole? {a b c : Char} (h : whole? a b = some c) :
    ∃ n, 0xc0 ≤ n ∧ c = Char.ofNat n := by
  unfold whole? at h
  split at h
  · rename_i w hangul
    obtain rfl := Option.some.inj h
    unfold hangulWhole? at hangul
    split at hangul
    · exact ⟨_, by omega, (Option.some.inj hangul).symm⟩
    · split at hangul
      · exact ⟨_, by omega, (Option.some.inj hangul).symm⟩
      · cases hangul
  · dsimp only at h
    split at h
    · rename_i key n hfound
      obtain ⟨-, hwhole⟩ := Option.ite_none_right_eq_some.1 h
      have hmem := List.mem_mergeSort.1 (mem_of_rowFor hfound)
      obtain ⟨row, hrow, hsame⟩ := List.mem_filterMap.1 hmem
      split at hsame
      · obtain ⟨-, rfl⟩ : _ ∧ _ := by simpa using hsame
        have hwell := List.all_eq_true.1 tables_checked.2.1.2.2 _ hrow
        unfold composesWell at hwell
        rw [Bool.and_eq_true, Nat.ble_eq] at hwell
        exact ⟨_, hwell.2, (Option.some.inj hwhole).symm⟩
      · cases hsame
    · cases h

theorem isUpper_ofNat {n : Nat} (h : 91 ≤ n) : (Char.ofNat n).isUpper = false := by
  refine eq_false_of_ne_true fun hupper => ?_
  have hrange : 65 ≤ (Char.ofNat n).toNat ∧ (Char.ofNat n).toNat ≤ 90 := of_decide_eq_true hupper
  rcases toNat_ofNat_or n with heq | heq <;> omega

theorem isUpper_of_not_isCapital {c : Char} (h : ¬IsCapital c) : c.isUpper = false :=
  eq_false_of_ne_true fun hupper => h (isCapital_of_isUpper hupper)

/-- **No bare capital is a part** of a character that is none. -/
theorem isUpper_of_mem_parts (fuel : Nat) : ∀ {c : Char}, ¬IsCapital c →
    ∀ x ∈ parts c fuel, x.isUpper = false := by
  induction fuel with
  | zero =>
      intro c hc x hx
      exact List.mem_singleton.1 hx ▸ isUpper_of_not_isCapital hc
  | succ fuel ih =>
      intro c hc x hx
      rw [parts] at hx
      split at hx
      · rename_i letters hletters
        unfold hangulLetters? at hletters
        dsimp only at hletters
        obtain ⟨hrange, hletters⟩ := Option.ite_none_right_eq_some.1 hletters
        split at hletters
        · obtain rfl := Option.some.inj hletters
          simp only [List.mem_cons, List.not_mem_nil, or_false] at hx
          rcases hx with rfl | rfl
          · exact isUpper_ofNat (by omega)
          · exact isUpper_ofNat (by omega)
        · obtain rfl := Option.some.inj hletters
          simp only [List.mem_cons, List.not_mem_nil, or_false] at hx
          rcases hx with hx | hx | hx
          · exact hx ▸ isUpper_ofNat (by omega)
          · exact hx ▸ isUpper_ofNat (by omega)
          · exact hx ▸ isUpper_ofNat (by omega)
      · split at hx
        · rename_i a b hhalves
          obtain ⟨m, n, hrow, rfl, rfl⟩ := exists_of_halves? hhalves
          have hwell := List.all_eq_true.1 tables_checked.2.1.2.2 _ hrow
          unfold composesWell at hwell
          rw [Bool.and_eq_true, Bool.and_eq_true, Nat.ble_eq, Bool.or_eq_true,
            Bool.not_eq_true'] at hwell
          obtain ⟨⟨hfirst, hsecond⟩, -⟩ := hwell
          have hbit : capitals.testBit m = false := hfirst.resolve_right hc
          rcases List.mem_append.1 hx with hx | hx
          · exact ih (not_isCapital_ofNat hbit) x hx
          · exact List.mem_singleton.1 hx ▸ isUpper_ofNat (by omega)
        · exact List.mem_singleton.1 hx ▸ isUpper_of_not_isCapital hc

/-! ## §5. Putting together. -/

theorem mem_insertMark {c x : Char} {ds : List Char} (h : x ∈ insertMark c ds) :
    x = c ∨ x ∈ ds := by
  induction ds with
  | nil => exact .inl (List.mem_singleton.1 h)
  | cons d ds ih =>
      rw [insertMark] at h
      split at h
      · rcases List.mem_cons.1 h with rfl | h
        · exact .inr List.mem_cons_self
        · exact (ih h).imp id (List.mem_cons_of_mem d)
      · exact List.mem_cons.1 h

/-- Putting marks in order adds none. -/
theorem mem_orderMarks {cs : List Char} {x : Char} (h : x ∈ orderMarks cs) : x ∈ cs := by
  -- The induction is on the characters, for all that was put in order before them.
  have hfold : ∀ (cs acc : List Char), x ∈ cs.foldl (fun acc c =>
      if combiningClass c = 0 then c :: acc else insertMark c acc) acc → x ∈ cs ∨ x ∈ acc := by
    intro cs
    induction cs with
    | nil => exact fun acc h => .inr h
    | cons c cs ih =>
        intro acc h
        rw [List.foldl_cons] at h
        rcases ih _ h with h | h
        · exact .inl (List.mem_cons_of_mem c h)
        · have hone : x = c ∨ x ∈ acc := by
            split at h
            · exact List.mem_cons.1 h
            · exact mem_insertMark h
          rcases hone with rfl | h
          · exact .inl List.mem_cons_self
          · exact .inr h
  exact (hfold cs [] (List.mem_reverse.1 h)).resolve_right List.not_mem_nil

section

variable {P : Char → Prop}

/-- Whether something holds of all characters that are passed, done or waiting. -/
structure Composing.All (P : Char → Prop) (s : Composing) : Prop where
  done : ∀ x ∈ s.done, P x
  starter : ∀ x ∈ s.starter, P x
  passed : ∀ x ∈ s.passed, P x

/-- **One more character** keeps what holds of it and of all wholes. -/
theorem Composing.All.step (hwhole : ∀ a b c, whole? a b = some c → P c) {s : Composing}
    (h : s.All P) {c : Char} (hc : P c) : (s.step c).All P := by
  have hcons {xs : List Char} (hxs : ∀ x ∈ xs, P x) : ∀ x ∈ c :: xs, P x := fun x hx =>
    (List.mem_cons.1 hx).elim (fun heq => heq ▸ hc) (hxs x)
  unfold Composing.step
  split
  · split
    · exact ⟨h.done, fun x hx => Option.some.inj hx ▸ hc, h.passed⟩
    · exact ⟨hcons h.done, h.starter, h.passed⟩
  · rename_i st hstarter
    have hst : P st := h.starter st hstarter
    dsimp only
    split
    · rename_i w hw
      have hjoined : whole? st c = some w := (Option.ite_none_left_eq_some.1 hw).2
      exact ⟨h.done, fun x hx => Option.some.inj hx ▸ hwhole st c w hjoined, h.passed⟩
    · split
      · refine ⟨fun x hx => ?_, fun x hx => Option.some.inj hx ▸ hc, fun x hx => nomatch hx⟩
        rcases List.mem_append.1 hx with hx | hx
        · exact h.passed x hx
        · exact (List.mem_cons.1 hx).elim (fun heq => heq ▸ hst) (h.done x)
      · exact ⟨h.done, h.starter, hcons h.passed⟩

/-- **What holds of the characters, of their parts and of all wholes** holds of the composed
form. -/
theorem compose_all (hwhole : ∀ a b c, whole? a b = some c → P c) {cs : List Char}
    (hself : ∀ c ∈ cs, P c) (hparts : ∀ c ∈ cs, ∀ x ∈ parts c 4, P x) :
    ∀ x ∈ compose cs, P x := by
  -- What holds of the state is kept by each character, whatever the state at the start.
  have hrun : ∀ (xs : List Char) (s : Composing), (∀ x ∈ xs, P x) → s.All P →
      (xs.foldl Composing.step s).All P := by
    intro xs
    induction xs with
    | nil => exact fun s _ hs => hs
    | cons x xs ih =>
        exact fun s hxs hs => ih _ (fun y hy => hxs y (List.mem_cons_of_mem x hy))
          (hs.step hwhole (hxs x List.mem_cons_self))
  unfold compose
  split
  · exact hself
  · have hapart : ∀ x ∈ orderMarks (cs.flatMap fun c => parts c 4), P x := by
      intro x hx
      obtain ⟨c, hc, hx⟩ := List.mem_flatMap.1 (mem_orderMarks hx)
      exact hparts c hc x hx
    have hstart : (Composing.mk [] none []).All P :=
      ⟨fun x hx => (nomatch hx), fun x hx => (nomatch hx), fun x hx => (nomatch hx)⟩
    have hend := hrun _ _ hapart hstart
    intro x hx
    rcases List.mem_append.1 (List.mem_reverse.1 hx) with hx | hx
    · exact hend.passed x hx
    · rcases List.mem_append.1 hx with hx | hx
      · exact hend.starter x (Option.mem_toList.1 hx)
      · exact hend.done x hx

end

/-- **No bare capital comes out of a name** when its characters are replaced. -/
theorem isUpper_of_replaceAll? {cs mapped : List Char} (h : replaceAll? cs = some mapped) :
    ∀ x ∈ mapped, x.isUpper = false := by
  unfold replaceAll? at h
  obtain ⟨pieces, hpieces, rfl⟩ := Option.map_eq_some_iff.1 h
  have hlow : ∀ c ∈ pieces.flatten, ¬IsCapital c := by
    intro c hc
    obtain ⟨piece, hpiece, hc⟩ := List.mem_flatten.1 hc
    obtain ⟨x, -, hx⟩ := exists_of_mem_mapM hpieces piece hpiece
    exact not_isCapital_of_mapping? hx c hc
  refine compose_all (fun a b c hc => ?_) (fun c hc => isUpper_of_not_isCapital (hlow c hc))
    fun c hc => isUpper_of_mem_parts 4 (hlow c hc)
  obtain ⟨n, hn, rfl⟩ := exists_of_whole? hc
  exact isUpper_ofNat (by omega)

end Federation.Url.Name
