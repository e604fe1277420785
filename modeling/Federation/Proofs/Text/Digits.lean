/-
  Federation.Proofs.Text.Digits
  ─────────────────────────────
  **NUMBERS IN DIGITS.**

  A number that is written in decimal digits reads as itself, whether or not
  zeros stand before it.

  Main results:
    * `decimalFrom_of_digits` — a run of digits reads as the number that it
      writes;
    * `ofDigitChars_zeros` — zeros in front change nothing;
    * `head_toDigits_ne_zero` — a number is written without them.
-/
import Federation.Text.Split
import Mathlib.Data.List.TakeWhile

namespace Federation.Text

theorem digit?_of_isDigit {c : Char} (h : c.isDigit = true) :
    digit? c = some (c.toNat - '0'.toNat) := by
  unfold digit?
  rw [if_pos]
  unfold Char.isDigit at h
  rw [Bool.and_eq_true, decide_eq_true_iff, decide_eq_true_iff] at h
  exact h

theorem isSome_digit? (c : Char) : (digit? c).isSome = c.isDigit := by
  by_cases h : c.isDigit = true
  · rw [digit?_of_isDigit h, h]
    rfl
  · have hrange : ¬('0' ≤ c ∧ c ≤ '9') := by
      intro hc
      apply h
      unfold Char.isDigit
      rw [Bool.and_eq_true, decide_eq_true_iff, decide_eq_true_iff]
      exact hc
    unfold digit?
    rw [if_neg hrange, Bool.not_eq_true _ |>.mp h]
    rfl

/-- **A run of digits reads as the number that it writes.** -/
theorem decimalFrom_of_digits {cs : List Char} (h : ∀ c ∈ cs, c.isDigit = true) (acc : Nat) :
    decimalFrom acc cs = some (Nat.ofDigitChars 10 cs acc) := by
  induction cs generalizing acc with
  | nil => rfl
  | cons c cs ih =>
      show (digit? c).bind _ = _
      rw [digit?_of_isDigit (h c List.mem_cons_self), Option.bind_some,
        ih fun x hx => h x (List.mem_cons_of_mem c hx), Nat.mul_comm acc 10]
      rfl

theorem isDigit_toDigits {n : Nat} : ∀ c ∈ Nat.toDigits 10 n, c.isDigit = true := fun _ hc =>
  Nat.isDigit_of_mem_toDigits (by decide) (by decide) hc

/-- There has to be a digit for a number. -/
theorem decimal?_of_digits {cs : List Char} (hne : cs ≠ []) (h : ∀ c ∈ cs, c.isDigit = true) :
    decimal? cs = some (Nat.ofDigitChars 10 cs 0) := by
  cases cs with
  | nil => exact absurd rfl hne
  | cons c cs => exact decimalFrom_of_digits h 0

/-- A run ends where something else begins. -/
theorem span_append {p : Char → Bool} {rest : List Char} (h : ∀ c ∈ rest.head?, p c = false)
    (cs : List Char) :
    (cs ++ rest).takeWhile p = cs.takeWhile p ∧
      (cs ++ rest).dropWhile p = cs.dropWhile p ++ rest := by
  induction cs with
  | nil =>
      cases rest with
      | nil => exact ⟨rfl, rfl⟩
      | cons c more =>
          have hc : ¬p c = true := by
            rw [h c rfl]
            decide
          exact ⟨List.takeWhile_cons_of_neg hc, List.dropWhile_cons_of_neg hc⟩
  | cons c cs ih =>
      by_cases hc : p c = true
      · rw [List.cons_append, List.takeWhile_cons_of_pos hc, List.dropWhile_cons_of_pos hc,
          List.takeWhile_cons_of_pos hc, List.dropWhile_cons_of_pos hc, ih.1]
        exact ⟨rfl, ih.2⟩
      · rw [List.cons_append, List.takeWhile_cons_of_neg hc, List.dropWhile_cons_of_neg hc,
          List.takeWhile_cons_of_neg hc, List.dropWhile_cons_of_neg hc]
        exact ⟨rfl, rfl⟩

/-- Zeros in front change nothing. -/
theorem ofDigitChars_zeros (k : Nat) (cs : List Char) :
    Nat.ofDigitChars 10 (List.replicate k '0' ++ cs) 0 = Nat.ofDigitChars 10 cs 0 := by
  induction k with
  | zero => rfl
  | succ k ih => exact ih

/-- Further digits make a number no smaller. -/
theorem le_ofDigitChars (cs : List Char) (acc : Nat) : acc ≤ Nat.ofDigitChars 10 cs acc := by
  induction cs generalizing acc with
  | nil => exact Nat.le_refl acc
  | cons c cs ih =>
      have hstep : acc ≤ 10 * acc + (c.toNat - '0'.toNat) := by omega
      exact Nat.le_trans hstep (ih _)

/-- The digits of a number that is not zero begin with no zero. -/
theorem head_toDigits_ne_zero {n : Nat} (h : 0 < n) : ∀ cs, Nat.toDigits 10 n ≠ '0' :: cs := by
  induction n using Nat.strongRecOn with
  | ind n ih =>
      intro cs hcs
      rw [Nat.toDigits_eq_if (by decide)] at hcs
      by_cases hsmall : n < 10
      · rw [if_pos hsmall] at hcs
        have hzero : ∀ m < 10, 0 < m → m.digitChar ≠ '0' := by decide
        exact hzero n hsmall h (List.cons.inj hcs).1
      · rw [if_neg hsmall] at hcs
        -- The first digit is that of a tenth of the number.
        cases htenth : Nat.toDigits 10 (n / 10) with
        | nil => exact Nat.toDigits_ne_nil htenth
        | cons c front =>
            rw [htenth, List.cons_append] at hcs
            obtain ⟨rfl, -⟩ := List.cons.inj hcs
            exact ih (n / 10) (by omega) (by omega) front htenth

end Federation.Text
