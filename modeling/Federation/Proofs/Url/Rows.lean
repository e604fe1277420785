/-
  Federation.Proofs.Url.Rows
  ──────────────────────────
  **ROWS ARE FOUND.**

  The search of a table halves the rows that come into question.  Whatever
  the table, what it finds is a row of the table; where the ranges of the
  rows are apart and in order, it finds the row whose range holds the number.

  Main results:
    * `mem_of_rowFor` — what is found is a row;
    * `rowFor_eq_some` — the row that holds a number is found.
-/
import Federation.Url.Name.Property
import Mathlib.Data.List.Pairwise

namespace Federation.Url.Name

/-! ## §1. What is found. -/

theorem mem_of_lastAtMost {t : Array Row} {n : Nat} {row : Row} (fuel : Nat) :
    ∀ low high, lastAtMost t n low high fuel = some row → row ∈ t := by
  induction fuel with
  | zero => exact fun low high h => nomatch h
  | succ fuel ih =>
      intro low high h
      rw [lastAtMost] at h
      split at h
      · split at h
        · cases h
        · exact Array.mem_of_getElem? h
      · dsimp only at h
        split at h
        · split at h
          · exact ih _ _ h
          · exact ih _ _ h
        · cases h

/-- **What is found is a row of the table.** -/
theorem mem_of_rowFor {rows : List Row} {n : Nat} {row : Row}
    (h : rowFor rows.toArray n = some row) : row ∈ rows :=
  List.mem_toArray.1 (mem_of_lastAtMost _ _ _ h)

/-! ## §2. Halving. -/

/-- **The search ends at the last row whose key is at most `n`**: that row stays between the
two ends, or right before them. -/
theorem lastAtMost_eq_some {t : Array Row} {n p : Nat} {row : Row} (hrow : t[p]? = some row)
    (hkey : ∀ i < t.size, ∃ first rest, t[i]? = some (first :: rest) ∧ (first ≤ n ↔ i ≤ p))
    (fuel : Nat) : ∀ low high, high - low < Nat.pow 2 fuel → low ≤ p + 1 → p + 1 ≤ high →
      high ≤ t.size → lastAtMost t n low high (fuel + 1) = some row := by
  have hend {low high : Nat} (fuel : Nat) (h : high ≤ low) (hlow : low ≤ p + 1)
      (hhigh : p + 1 ≤ high) : lastAtMost t n low high (fuel + 1) = some row := by
    obtain rfl : low = p + 1 := by omega
    rw [lastAtMost, if_pos h, if_neg (Nat.succ_ne_zero p), Nat.add_sub_cancel, hrow]
  induction fuel with
  | zero =>
      intro low high hfuel hlow hhigh hsize
      exact hend 0 (Nat.le_of_sub_eq_zero (Nat.lt_one_iff.1 hfuel)) hlow hhigh
  | succ fuel ih =>
      intro low high hfuel hlow hhigh hsize
      by_cases hopen : high ≤ low
      · exact hend (fuel + 1) hopen hlow hhigh
      · obtain ⟨first, rest, hmiddle, hside⟩ := hkey ((low + high) / 2) (by omega)
        have hfuel : high - low < Nat.pow 2 fuel * 2 := hfuel
        rw [lastAtMost, if_neg hopen]
        dsimp only
        rw [hmiddle]
        dsimp only
        split
        · rename_i hfirst
          have hleft := hside.1 hfirst
          exact ih _ _ (by omega) (by omega) hhigh hsize
        · rename_i hfirst
          have hright := hside.not.1 hfirst
          exact ih _ _ (by omega) hlow (by omega) (by omega)

/-! ## §3. Tables in order. -/

/-- The first number of a row. -/
def Row.first (r : Row) : Nat := r.headD 0

/-- **Tables whose rows begin and end at increasing numbers.** -/
structure Ordered (last : Row → Nat) (rows : List Row) : Prop where
  apart : rows.Pairwise fun r s => last r < Row.first s
  formed : ∀ r ∈ rows, r ≠ [] ∧ Row.first r ≤ last r
  few : rows.length < Nat.pow 2 31

/-- **The row whose range holds a number is found.** -/
theorem rowFor_eq_some {last : Row → Nat} {rows : List Row} (h : Ordered last rows) {row : Row}
    (hrow : row ∈ rows) {n : Nat} (hn : Row.first row ≤ n ∧ n ≤ last row) :
    rowFor rows.toArray n = some row := by
  obtain ⟨p, hp, hget⟩ := List.mem_iff_getElem.1 hrow
  have hapart := List.pairwise_iff_getElem.1 h.apart
  have hsome : rows.toArray[p]? = some row := by simp [hp, hget]
  have hlast : p + 1 ≤ rows.toArray.size := by
    rw [List.size_toArray]
    exact hp
  refine lastAtMost_eq_some hsome (fun i hi => ?_) 31 0 _ ?_ (Nat.zero_le _) hlast (Nat.le_refl _)
  · rw [List.size_toArray] at hi
    obtain ⟨hne, hformed⟩ := h.formed rows[i] (List.getElem_mem hi)
    obtain ⟨first, rest, hfirst⟩ := List.exists_cons_of_ne_nil hne
    rw [hfirst] at hformed
    refine ⟨first, rest, by simp [hi, hfirst], ?_⟩
    -- Rows before the one sought end below its first number, rows after it begin above `n`.
    rcases Nat.lt_trichotomy i p with hbefore | rfl | hafter
    · have hlt := hapart i p hi hp hbefore
      rw [hget, hfirst] at hlt
      have hle : first ≤ last (first :: rest) := hformed
      exact iff_of_true (by omega) (by omega)
    · rw [hget] at hfirst
      rw [hfirst] at hn
      exact iff_of_true hn.1 (Nat.le_refl _)
    · have hlt := hapart p i hp hi hafter
      rw [hget, hfirst] at hlt
      have hlt : last row < first := hlt
      exact iff_of_false (by omega) (by omega)
  · simpa using h.few

end Federation.Url.Name
