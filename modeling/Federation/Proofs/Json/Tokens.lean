/-
  Federation.Proofs.Json.Tokens
  ─────────────────────────────
  **STRINGS AND NUMBERS READ BACK.**

  What is written of a string is read as the string, whatever characters are
  in it.  What is written of an integer of sixty-four bits is read as the
  integer.  A real is written with the fewest digits that single it out, but
  it is read with one rounding for its digits and another for its exponent,
  and the two together may come out beside it; that a number lasts is
  therefore a property of the number.

  Main results:
    * `string?_quote` — every string is read back;
    * `number?_append` — what follows a number does not change it;
    * `lasts_integer` — every integer of sixty-four bits is read back.
-/
import Federation.Json.Reader
import Federation.Json.Writer
import Federation.Proofs.Text.Digits

namespace Federation.Json

open Number (Binary64 longBound signedBound)
open Text (digit? isSome_digit? digit?_of_isDigit isDigit_toDigits le_ofDigitChars
  head_toDigits_ne_zero span_append)

namespace Reader

/-! ## §1. Strings. -/

theorem hexValue?_hexDigit : ∀ n < 16, hexValue? (hexDigit n) = some n := by decide

/-- A control character is written by its number. -/
theorem unicodeEscape?_control {c : Char} (h : c.toNat < 32) (rest : List Char) :
    unicodeEscape? ('0' :: '0' :: hexDigit (c.toNat / 16) :: hexDigit (c.toNat % 16) :: rest)
      = some (c, rest) := by
  have hzero : hexValue? '0' = some 0 := by decide
  have hhigh := hexValue?_hexDigit (c.toNat / 16) (by omega)
  have hlow := hexValue?_hexDigit (c.toNat % 16) (by omega)
  have hunit : unit? ('0' :: '0' :: hexDigit (c.toNat / 16) :: hexDigit (c.toNat % 16) :: rest)
      = some (c.toNat, rest) := by
    have hvalue : ((0 * 16 + 0) * 16 + c.toNat / 16) * 16 + c.toNat % 16 = c.toNat := by omega
    simp only [unit?, hzero, hhigh, hlow, Option.bind_eq_bind, Option.bind_some, hvalue]
  -- No control character is half of a pair.
  simp only [unicodeEscape?, hunit, Option.bind_eq_bind, Option.bind_some]
  rw [if_neg (by omega), if_neg (by omega), Char.ofNat_toNat]

/-- An escaped character and what comes after it. -/
theorem stringBody?_escaped {fuel : Nat} {c : Char} {written rest : List Char}
    (h : escape? (written ++ rest) = some (c, rest)) :
    stringBody? (fuel + 1) ('\\' :: written ++ rest)
      = (stringBody? fuel rest).map fun (xs, rest) => (c :: xs, rest) := by
  rw [List.cons_append, stringBody?, if_neg (by decide), if_pos rfl, h, Option.bind_eq_bind,
    Option.bind_some]
  show (stringBody? fuel rest).bind _ = _
  cases stringBody? fuel rest <;> rfl

/-- **A character is read as it is written.** -/
theorem stringBody?_escapeChar (fuel : Nat) (c : Char) (rest : List Char) :
    stringBody? (fuel + 1) (escapeChar c ++ rest)
      = (stringBody? fuel rest).map fun (xs, rest) => (c :: xs, rest) := by
  unfold escapeChar
  -- Seven characters have a short form each.
  iterate 7
    split
    · rename_i h
      subst h
      exact stringBody?_escaped rfl
  split
  · rename_i h
    exact stringBody?_escaped (unicodeEscape?_control h rest)
  · rename_i hquote hbackslash _ _ _ _ _ hcontrol
    rw [List.singleton_append, stringBody?, if_neg hquote, if_neg hbackslash, if_neg hcontrol]
    cases stringBody? fuel rest <;> rfl

theorem stringBody?_quoted (cs : List Char) : ∀ (fuel : Nat) (rest : List Char),
    cs.length < fuel →
    stringBody? fuel (cs.flatMap escapeChar ++ '"' :: rest) = some (cs, rest) := by
  induction cs with
  | nil =>
      intro fuel rest hfuel
      cases fuel with
      | zero => cases hfuel
      | succ fuel => rfl
  | cons c cs ih =>
      intro fuel rest hfuel
      cases fuel with
      | zero => cases hfuel
      | succ fuel =>
          rw [List.flatMap_cons, List.append_assoc, stringBody?_escapeChar,
            ih fuel rest (Nat.lt_of_succ_lt_succ hfuel)]
          rfl

/-- No character is written with nothing. -/
theorem escapeChar_ne_nil (c : Char) : escapeChar c ≠ [] := by
  unfold escapeChar
  repeat' split
  all_goals exact List.cons_ne_nil _ _

theorem length_le_flatMap_escapeChar (cs : List Char) :
    cs.length ≤ (cs.flatMap escapeChar).length := by
  induction cs with
  | nil => exact Nat.le_refl _
  | cons c cs ih =>
      have hpos := List.length_pos_iff.2 (escapeChar_ne_nil c)
      rw [List.flatMap_cons, List.length_append, List.length_cons]
      omega

/-- **Every string is read back**, whatever follows it. -/
theorem string?_quote (s : String) (rest : List Char) :
    string? (s.toList.flatMap escapeChar ++ '"' :: rest) = some (s, rest) := by
  have hlength := length_le_flatMap_escapeChar s.toList
  unfold string?
  rw [stringBody?_quoted s.toList _ rest (by rw [List.length_append]; omega)]
  show some (String.ofList s.toList, rest) = _
  rw [String.ofList_toList]

/-! ## §2. What follows a number. -/

/-- What may follow a number without being taken for a part of it. -/
def Apart (rest : List Char) : Prop :=
  ∀ c ∈ rest.head?, c.isDigit = false ∧ c ≠ '.' ∧ opensExponent c = false

theorem apart_nil : Apart [] := fun _ h => by cases h

theorem apart_cons {c : Char} {cs : List Char}
    (h : c.isDigit = false ∧ c ≠ '.' ∧ opensExponent c = false) : Apart (c :: cs) := by
  intro x hx
  obtain rfl := Option.some.inj hx
  exact h

theorem digits_append (cs : List Char) {rest : List Char} (h : Apart rest) :
    digits (cs ++ rest) = ((digits cs).1, (digits cs).2 ++ rest) := by
  have hspan := span_append (p := fun c => (digit? c).isSome) (fun c hc =>
    (isSome_digit? c).trans (h c hc).1) cs
  unfold digits
  rw [hspan.1, hspan.2]

/-- The sign of an exponent, true for minus, and what comes after it. -/
def exponentSign : List Char → Bool × List Char
  | '+' :: rest => (false, rest)
  | '-' :: rest => (true, rest)
  | rest => (false, rest)

/-- A significand with an exponent of these digits. -/
def withExponent? (negative : Bool) (s : Scaled) (down : Bool) (ds : List Nat) :
    Option Numeral :=
  if ds.isEmpty then none
  else
    let e : Nat := ds.foldl (fun acc d => acc * 10 + d) 0
    if exponentBound ≤ e then
      if s.significand ≠ 0 ∧ !down then none else some (.real { Binary64.zero with negative })
    else
      let exponent := if down then s.exponent - (e : Int) else s.exponent + (e : Int)
      { s with exponent }.real? negative

/-- An exponent part is a sign and digits. -/
theorem exponentPart?_eq (negative : Bool) (s : Scaled) (cs : List Char) :
    exponentPart? negative s cs =
      (withExponent? negative s (exponentSign cs).1 (digits (exponentSign cs).2).1).map
        fun n => (n, (digits (exponentSign cs).2).2) := by
  have hsign : exponentPart? negative s cs =
      (let read := digits (exponentSign cs).2
       if read.1.isEmpty then none
       else
        let e : Nat := read.1.foldl (fun acc d => acc * 10 + d) 0
        if exponentBound ≤ e then
          if s.significand ≠ 0 ∧ !(exponentSign cs).1 then none
          else some (.real { Binary64.zero with negative }, read.2)
        else
          let exponent :=
            if (exponentSign cs).1 then s.exponent - (e : Int) else s.exponent + (e : Int)
          ({ s with exponent }.real? negative).map (·, read.2)) := rfl
  rw [hsign]
  unfold withExponent?
  dsimp only
  split
  · rfl
  split
  · split <;> rfl
  · rfl

theorem exponentSign_append {cs : List Char} (h : cs ≠ []) (rest : List Char) :
    exponentSign (cs ++ rest) = ((exponentSign cs).1, (exponentSign cs).2 ++ rest) := by
  cases cs with
  | nil => exact absurd rfl h
  | cons c cs =>
      rw [List.cons_append]
      unfold exponentSign
      split
      · rename_i heq
        obtain ⟨rfl, rfl⟩ := List.cons.inj heq
        rfl
      · rename_i heq
        obtain ⟨rfl, rfl⟩ := List.cons.inj heq
        rfl
      · rename_i hplus hminus
        split
        · rename_i heq
          obtain ⟨rfl, rfl⟩ := List.cons.inj heq
          exact (hplus _ rfl).elim
        · rename_i heq
          obtain ⟨rfl, rfl⟩ := List.cons.inj heq
          exact (hminus _ rfl).elim
        · rfl

/-- What follows an exponent does not change it. -/
theorem exponentPart?_append {negative : Bool} {s : Scaled} {cs r rest : List Char} {n : Numeral}
    (h : Apart rest) (hread : exponentPart? negative s cs = some (n, r)) :
    exponentPart? negative s (cs ++ rest) = some (n, r ++ rest) := by
  have hne : cs ≠ [] := by
    intro hnil
    subst hnil
    cases hread
  rw [exponentPart?_eq] at hread ⊢
  obtain ⟨m, hm, heq⟩ := Option.map_eq_some_iff.1 hread
  obtain ⟨rfl, rfl⟩ := Prod.mk.inj heq
  rw [exponentSign_append hne, digits_append _ h, hm]
  rfl

/-- The end of a number: an exponent, or else what the digits say by themselves. -/
def ending? (negative : Bool) (s : Scaled) (plain : Option Numeral) (cs : List Char) :
    Option (Numeral × List Char) :=
  match cs with
  | c :: more => if opensExponent c then exponentPart? negative s more else plain.map (·, cs)
  | [] => plain.map (·, cs)

theorem ending?_cons (negative : Bool) (s : Scaled) (plain : Option Numeral) (c : Char)
    (more : List Char) :
    ending? negative s plain (c :: more) =
      if opensExponent c then exponentPart? negative s more else plain.map (·, c :: more) := rfl

theorem ending?_append {negative : Bool} {s : Scaled} {plain : Option Numeral}
    {cs r rest : List Char} {n : Numeral} (h : Apart rest)
    (hread : ending? negative s plain cs = some (n, r)) :
    ending? negative s plain (cs ++ rest) = some (n, r ++ rest) := by
  cases cs with
  | nil =>
      obtain ⟨m, rfl, heq⟩ := Option.map_eq_some_iff.1 hread
      obtain ⟨rfl, rfl⟩ := Prod.mk.inj heq
      cases rest with
      | nil => rfl
      | cons c more =>
          rw [List.nil_append, ending?_cons, (h c rfl).2.2]
          rfl
  | cons c cs =>
      rw [ending?_cons] at hread
      rw [List.cons_append, ending?_cons]
      by_cases hc : opensExponent c = true
      · rw [if_pos hc] at hread ⊢
        exact exponentPart?_append h hread
      · rw [if_neg hc] at hread ⊢
        obtain ⟨m, rfl, heq⟩ := Option.map_eq_some_iff.1 hread
        obtain ⟨rfl, rfl⟩ := Prod.mk.inj heq
        rfl

theorem afterWhole?_point (negative : Bool) (s : Scaled) (cs : List Char) :
    afterWhole? negative s ('.' :: cs) =
      if (digits cs).1.isEmpty then none
      else ending? negative (fractionDigits s (digits cs).1)
        ((fractionDigits s (digits cs).1).real? negative) (digits cs).2 := rfl

theorem afterWhole?_no_point (negative : Bool) (s : Scaled) {cs : List Char}
    (h : cs.head? ≠ some '.') :
    afterWhole? negative s cs = ending? negative s (integer? negative s) cs := by
  cases cs with
  | nil => rfl
  | cons c cs =>
      unfold afterWhole?
      split
      · rename_i heq
        obtain ⟨rfl, rfl⟩ := List.cons.inj heq
        exact (h rfl).elim
      · rename_i heq
        obtain ⟨rfl, rfl⟩ := List.cons.inj heq
        rfl
      · rename_i heq
        cases heq

/-- What follows a number does not change what comes of its end. -/
theorem afterWhole?_append {negative : Bool} {s : Scaled} {cs r rest : List Char} {n : Numeral}
    (h : Apart rest) (hread : afterWhole? negative s cs = some (n, r)) :
    afterWhole? negative s (cs ++ rest) = some (n, r ++ rest) := by
  by_cases hpoint : cs.head? = some '.'
  · obtain ⟨cs, rfl⟩ := List.head?_eq_some_iff.1 hpoint
    rw [List.cons_append, afterWhole?_point, digits_append cs h]
    rw [afterWhole?_point] at hread
    by_cases hempty : (digits cs).1.isEmpty = true
    · rw [if_pos hempty] at hread
      cases hread
    · rw [if_neg hempty] at hread ⊢
      exact ending?_append h hread
  · have hnone : (cs ++ rest).head? ≠ some '.' := by
      cases cs with
      | nil => exact fun hc => (h '.' hc).2.1 rfl
      | cons c cs => exact hpoint
    rw [afterWhole?_no_point negative s hnone]
    rw [afterWhole?_no_point negative s hpoint] at hread
    exact ending?_append h hread

/-- The sign of a number, true for minus, and what comes after it. -/
def numberSign : List Char → Bool × List Char
  | '-' :: rest => (true, rest)
  | rest => (false, rest)

/-- A number without its sign. -/
def unsigned? (negative : Bool) (cs : List Char) : Option (Numeral × List Char) :=
  match (digits cs).1 with
  | [] => none
  | 0 :: _ :: _ => none
  | ds => afterWhole? negative (wholeDigits ⟨0, 0⟩ ds) (digits cs).2

theorem number?_eq (cs : List Char) :
    number? cs = unsigned? (numberSign cs).1 (numberSign cs).2 := rfl

theorem numberSign_append {cs : List Char} (h : cs ≠ []) (rest : List Char) :
    numberSign (cs ++ rest) = ((numberSign cs).1, (numberSign cs).2 ++ rest) := by
  cases cs with
  | nil => exact absurd rfl h
  | cons c cs =>
      rw [List.cons_append]
      unfold numberSign
      split
      · rename_i heq
        obtain ⟨rfl, rfl⟩ := List.cons.inj heq
        rfl
      · rename_i hminus
        split
        · rename_i heq
          obtain ⟨rfl, rfl⟩ := List.cons.inj heq
          exact (hminus _ rfl).elim
        · rfl

/-- **What follows a number does not change it.** -/
theorem number?_append {cs r rest : List Char} {n : Numeral} (h : Apart rest)
    (hread : number? cs = some (n, r)) : number? (cs ++ rest) = some (n, r ++ rest) := by
  have hne : cs ≠ [] := by
    intro hnil
    subst hnil
    cases hread
  rw [number?_eq] at hread ⊢
  rw [numberSign_append hne]
  unfold unsigned? at hread ⊢
  rw [digits_append _ h]
  split at hread
  · cases hread
  · cases hread
  · exact afterWhole?_append h hread

/-- A number begins with a minus or a digit. -/
theorem number?_head {cs r : List Char} {n : Numeral} (hread : number? cs = some (n, r)) :
    ∃ c more, cs = c :: more ∧ (c = '-' ∨ c.isDigit = true) := by
  cases cs with
  | nil => cases hread
  | cons c more =>
      refine ⟨c, more, rfl, ?_⟩
      by_cases hminus : c = '-'
      · exact .inl hminus
      · refine .inr (Bool.of_not_eq_false fun hdigit => ?_)
        -- Without a sign there would have to be digits.
        have hsign : numberSign (c :: more) = (false, c :: more) := by
          unfold numberSign
          split
          · rename_i heq
            exact (hminus (List.cons.inj heq).1).elim
          · rfl
        have hnone : (digits (c :: more)).1 = [] := by
          unfold digits
          rw [List.takeWhile_cons_of_neg (by rw [isSome_digit?, hdigit]; decide)]
          rfl
        rw [number?_eq, hsign] at hread
        unfold unsigned? at hread
        rw [hnone] at hread
        cases hread

/-! ## §3. Integers. -/

/-- Digits of a significand that fits are all kept. -/
theorem wholeDigits_of_fits {cs : List Char} (h : ∀ c ∈ cs, c.isDigit = true) :
    ∀ acc, Nat.ofDigitChars 10 cs acc ≤ maxSignificand →
      wholeDigits ⟨acc, 0⟩ (cs.filterMap digit?) = ⟨Nat.ofDigitChars 10 cs acc, 0⟩ := by
  induction cs with
  | nil => exact fun _ _ => rfl
  | cons c cs ih =>
      intro acc hfits
      have hdigit := digit?_of_isDigit (h c List.mem_cons_self)
      have hvalue : Nat.ofDigitChars 10 (c :: cs) acc
          = Nat.ofDigitChars 10 cs (acc * 10 + (c.toNat - '0'.toNat)) := by
        rw [Nat.mul_comm acc 10]
        rfl
      rw [hvalue] at hfits ⊢
      -- What is read so far is not more than the whole.
      have hsofar := Nat.le_trans (le_ofDigitChars cs _) hfits
      rw [List.filterMap_cons_some hdigit, wholeDigits, if_pos ⟨rfl, hsofar⟩]
      exact ih (fun x hx => h x (List.mem_cons_of_mem c hx)) _ hfits

theorem digits_of_digits {cs : List Char} (h : ∀ c ∈ cs, c.isDigit = true) :
    digits cs = (cs.filterMap digit?, []) := by
  have hall : ∀ c ∈ cs, (digit? c).isSome = true := fun c hc => (isSome_digit? c).trans (h c hc)
  unfold digits
  rw [List.takeWhile_eq_self_iff.2 hall, List.dropWhile_eq_nil_iff.2 hall]

/-- The first digit of a number of several digits is not zero. -/
theorem digitValues_toDigits (n : Nat) :
    ∃ d ds, (Nat.toDigits 10 n).filterMap digit? = d :: ds ∧ (d = 0 → ds = []) := by
  cases hdigits : Nat.toDigits 10 n with
  | nil => exact absurd hdigits Nat.toDigits_ne_nil
  | cons c cs =>
      have hdigit : c.isDigit = true := isDigit_toDigits c (hdigits ▸ List.mem_cons_self)
      refine ⟨c.toNat - '0'.toNat, cs.filterMap digit?,
        List.filterMap_cons_some (digit?_of_isDigit hdigit), fun hzero => ?_⟩
      by_cases hn : n = 0
      · subst hn
        obtain ⟨-, rfl⟩ := List.cons.inj hdigits
        rfl
      · have hc : c = '0' := by
          unfold Char.isDigit at hdigit
          rw [Bool.and_eq_true, decide_eq_true_iff, decide_eq_true_iff] at hdigit
          have hlow : '0'.toNat ≤ c.toNat := hdigit.1
          exact Char.toNat_inj.1 (by omega)
        subst hc
        exact absurd hdigits (head_toDigits_ne_zero (Nat.pos_of_ne_zero hn) cs)

theorem unsigned?_toDigits (negative : Bool) {n : Nat} (h : n < longBound) :
    unsigned? negative (Nat.toDigits 10 n) = (integer? negative ⟨n, 0⟩).map (·, []) := by
  have hwhole : wholeDigits ⟨0, 0⟩ ((Nat.toDigits 10 n).filterMap digit?) = ⟨n, 0⟩ := by
    have hvalue := Nat.ofDigitChars_ten_toDigits (n := n)
    rw [wholeDigits_of_fits isDigit_toDigits 0 (by rw [hvalue]; exact Nat.le_sub_one_of_lt h),
      hvalue]
  obtain ⟨d, ds, hvalues, hlone⟩ := digitValues_toDigits n
  unfold unsigned?
  rw [digits_of_digits isDigit_toDigits]
  dsimp only
  split
  · rename_i hnil
    rw [hvalues] at hnil
    cases hnil
  · rename_i hzero
    rw [hvalues] at hzero
    obtain ⟨rfl, hds⟩ := List.cons.inj hzero
    rw [hlone rfl] at hds
    cases hds
  · rw [hwhole]
    rfl

theorem integer?_minus {n : Nat} (hpos : 0 < n) (h : n ≤ signedBound) :
    integer? true ⟨n, 0⟩ = some (.integer (-n)) := by
  unfold integer?
  dsimp only
  rw [if_neg (fun hne => hne rfl), if_neg (by decide), if_neg (Nat.ne_of_gt hpos), if_pos h]

/-- A number in digits alone has no sign. -/
theorem numberSign_toDigits (n : Nat) :
    numberSign (Nat.toDigits 10 n) = (false, Nat.toDigits 10 n) := by
  unfold numberSign
  split
  · rename_i hdigits
    have hminus : '-'.isDigit = true := isDigit_toDigits '-' (hdigits ▸ List.mem_cons_self)
    cases hminus
  · rfl

end Reader

/-- Whether a number is read as it is written. -/
def Numeral.Lasts (n : Numeral) : Prop := Reader.number? n.text.toList = some (n, [])

instance (n : Numeral) : Decidable n.Lasts :=
  inferInstanceAs (Decidable (Reader.number? n.text.toList = some (n, [])))

/-- **Integers of sixty-four bits last**, signed and unsigned ones. -/
theorem Numeral.lasts_integer {i : Int} (hlow : -(signedBound : Int) ≤ i)
    (hhigh : i < (longBound : Int)) : (Numeral.integer i).Lasts := by
  show Reader.number? i.repr.toList = _
  rw [Reader.number?_eq]
  cases i with
  | ofNat n =>
      have hn : n < longBound := Int.ofNat_lt.1 hhigh
      rw [show (Int.ofNat n).repr = n.repr from rfl, Nat.toList_repr,
        Reader.numberSign_toDigits, Reader.unsigned?_toDigits false hn]
      rfl
  | negSucc n =>
      have hn : n.succ ≤ signedBound := by
        rw [Int.negSucc_eq] at hlow
        omega
      have hlong : n.succ < longBound := by
        have : longBound = 2 * signedBound := rfl
        omega
      have htext : (Int.negSucc n).repr.toList = '-' :: Nat.toDigits 10 n.succ := by
        rw [show (Int.negSucc n).repr = "-" ++ n.succ.repr from rfl, String.toList_append,
          Nat.toList_repr]
        rfl
      rw [htext]
      show Reader.unsigned? true (Nat.toDigits 10 n.succ) = _
      rw [Reader.unsigned?_toDigits true hlong, Reader.integer?_minus n.succ_pos hn]
      rfl

/-- Reals need not last: what is nearest to `1e-25` is written so, and another value is read. -/
example : ¬(Numeral.real ⟨false, 8711228593176025, -136⟩).Lasts := by decide

end Federation.Json
