/-
  Federation.Proofs.Time.RecordText
  ─────────────────────────────────
  **RECORD TEXTS READ BACK.**

  The text that dates a record is read as the instant it was written for, with
  its fraction and in its offset, wherever the instant has such a text at all.
  Piece by piece: a day number is the one its date names, a padded number is
  read as the number, and so are a fraction without the zeros at its end and
  an offset.

  Main results:
    * `ofCivil?_ofDay` — a day is named by its date;
    * `readRecord?_recordText` — a record text is read back.
-/
import Federation.Proofs.Text.Digits
import Federation.Time.Notation
import Mathlib.Algebra.GroupWithZero.Nat

namespace Federation.Time

open Text (decimal? digit? decimal?_of_digits digit?_of_isDigit isSome_digit?
  isDigit_toDigits ofDigitChars_zeros span_append)

/-! ## §1. Dates. -/

/-- The months of a year in a row: where a day falls, and what lies before it. -/
theorem monthDay_spec (lens : List Nat) : ∀ (month rest : Nat), rest < lens.sum →
    ∃ i < lens.length, (monthDay lens month rest).1 = month + i ∧
      1 ≤ (monthDay lens month rest).2 ∧ (monthDay lens month rest).2 ≤ lens[i]?.getD 0 ∧
      (lens.take i).sum + (monthDay lens month rest).2 = rest + 1 := by
  induction lens with
  | nil => exact fun _ _ h => by cases h
  | cons len lens ih =>
      intro month rest h
      rw [List.sum_cons] at h
      by_cases hhere : rest < len
      · refine ⟨0, Nat.succ_pos _, ?_⟩
        rw [monthDay, if_pos hhere]
        refine ⟨rfl, Nat.succ_pos rest, hhere, ?_⟩
        rw [List.take_zero, List.sum_nil, Nat.zero_add]
      · obtain ⟨i, hi, hmonth, hfirst, hlast, hsum⟩ := ih (month + 1) (rest - len) (by omega)
        refine ⟨i + 1, Nat.succ_lt_succ hi, ?_⟩
        rw [monthDay, if_neg hhere, List.take_succ_cons, List.sum_cons]
        exact ⟨by omega, hfirst, hlast, by omega⟩

theorem sum_monthLengths (y : Int) : ((monthLengths y).sum : Int) = daysInYear y := by
  unfold monthLengths daysInYear
  cases isLeap y <;> rfl

theorem daysBeforeMonth_eq_sum (y : Int) (month : Nat) :
    daysBeforeMonth y month = ((monthLengths y).take (month - 1)).sum := by
  unfold daysBeforeMonth
  rw [List.sum_eq_foldl]

/-- No month has more days. -/
theorem daysInMonth_le (y : Int) (month : Nat) : daysInMonth y month ≤ 31 := by
  cases month with
  | zero => exact Nat.zero_le 31
  | succ m =>
      have hall : ∀ len ∈ monthLengths y, len ≤ 31 := by
        unfold monthLengths
        cases isLeap y <;> decide
      show (monthLengths y)[m]?.getD 0 ≤ 31
      cases hlen : (monthLengths y)[m]? with
      | none => exact Nat.zero_le 31
      | some len => exact hall len (List.mem_of_getElem? hlen)

/-- What is shown of a day is a date. -/
theorem ofDay_spec (n : Int) :
    1 ≤ (Date.ofDay n).month ∧ (Date.ofDay n).month ≤ 12 ∧ 1 ≤ (Date.ofDay n).day ∧
      (Date.ofDay n).day ≤ daysInMonth (Date.ofDay n).year (Date.ofDay n).month ∧
      daysBefore (Date.ofDay n).year + daysBeforeMonth (Date.ofDay n).year (Date.ofDay n).month
        + (Date.ofDay n).day - 1 = n := by
  obtain ⟨hfrom, hbelow⟩ := yearOf_spec n
  rw [daysBefore_succ, ← sum_monthLengths] at hbelow
  -- The day of the year lies within the months.
  obtain ⟨i, hi, hmonth, hfirst, hlast, hsum⟩ := monthDay_spec (monthLengths (yearOf n)) 1
    (n - daysBefore (yearOf n)).toNat (by omega)
  have hdate : Date.ofDay n = ⟨yearOf n,
      (monthDay (monthLengths (yearOf n)) 1 (n - daysBefore (yearOf n)).toNat).1,
      (monthDay (monthLengths (yearOf n)) 1 (n - daysBefore (yearOf n)).toNat).2⟩ := rfl
  rw [hdate]
  dsimp only
  rw [hmonth, Nat.add_comm 1 i, daysBeforeMonth_eq_sum, Nat.add_sub_cancel]
  exact ⟨by omega, hi, hfirst, hlast, by omega⟩

/-- **A day is named by its date.** -/
theorem ofCivil?_ofDay (n : Int) :
    ofCivil? (Date.ofDay n).year (Date.ofDay n).month (Date.ofDay n).day = some n := by
  obtain ⟨hmonth, htwelve, hday, hlast, hnumber⟩ := ofDay_spec n
  unfold ofCivil?
  rw [if_pos ⟨hmonth, htwelve, hday, hlast⟩, hnumber]

/-! ## §2. Padded numbers. -/

namespace Instant

theorem toList_padded (width n : Nat) :
    (padded width n).toList
      = List.replicate (width - (Nat.toDigits 10 n).length) '0' ++ Nat.toDigits 10 n := by
  unfold padded
  dsimp only
  rw [String.toList_append, String.toList_ofList, ← String.length_toList]
  show List.replicate (width - n.repr.toList.length) '0' ++ n.repr.toList = _
  rw [Nat.toList_repr]

theorem isDigit_padded (width n : Nat) : ∀ c ∈ (padded width n).toList, c.isDigit = true := by
  intro c hc
  rw [toList_padded, List.mem_append] at hc
  rcases hc with hc | hc
  · rw [List.eq_of_mem_replicate hc]
    rfl
  · exact isDigit_toDigits c hc

theorem length_padded {width n : Nat} (hwidth : 0 < width) (h : n < Nat.pow 10 width) :
    (padded width n).toList.length = width := by
  have hlength := (Nat.length_toDigits_le_iff (by decide) hwidth).2 h
  rw [toList_padded, List.length_append, List.length_replicate]
  omega

theorem ofDigitChars_padded (width n : Nat) :
    Nat.ofDigitChars 10 (padded width n).toList 0 = n := by
  rw [toList_padded, ofDigitChars_zeros, Nat.ofDigitChars_ten_toDigits]

end Instant

open Instant

/-- A padded number is read as the number. -/
theorem digitsOf_padded {width n : Nat} (hwidth : 0 < width) (h : n < Nat.pow 10 width)
    (rest : List Char) : digitsOf width ((padded width n).toList ++ rest) = some (n, rest) := by
  have hlength := length_padded hwidth h
  have hne : (padded width n).toList ≠ [] := by
    intro hnil
    rw [hnil] at hlength
    exact absurd hlength (Nat.ne_of_lt hwidth)
  have hvalue : decimal? (padded width n).toList = some n := by
    rw [decimal?_of_digits hne (isDigit_padded width n), ofDigitChars_padded]
  have htake : ((padded width n).toList ++ rest).take width = (padded width n).toList :=
    List.take_left' hlength
  have hdrop : ((padded width n).toList ++ rest).drop width = rest := List.drop_left' hlength
  unfold digitsOf
  dsimp only
  rw [htake, hdrop, if_pos hlength, hvalue]
  rfl

/-! ## §3. Fractions. -/

/-- The zeros at the end of a text are all that its trimmed form lacks. -/
theorem trim_zeros (cs : List Char) :
    ∃ k, cs = (cs.reverse.dropWhile (· == '0')).reverse ++ List.replicate k '0' := by
  refine ⟨(cs.reverse.takeWhile (· == '0')).length, ?_⟩
  have hzeros : cs.reverse.takeWhile (· == '0')
      = List.replicate (cs.reverse.takeWhile (· == '0')).length '0' := by
    refine List.eq_replicate_iff.2 ⟨rfl, fun c hc => ?_⟩
    exact beq_iff_eq.1 (List.all_eq_true.1 List.all_takeWhile c hc)
  rw [← List.reverse_replicate, ← hzeros, ← List.reverse_append,
    List.takeWhile_append_dropWhile, List.reverse_reverse]

/-- Digits are read one by one as they are read together. -/
theorem foldl_digits {cs : List Char} (h : ∀ c ∈ cs, c.isDigit = true) (acc : Nat) :
    cs.foldl (fun acc c => acc * 10 + (digit? c).getD 0) acc = Nat.ofDigitChars 10 cs acc := by
  induction cs generalizing acc with
  | nil => rfl
  | cons c cs ih =>
      rw [List.foldl_cons, digit?_of_isDigit (h c List.mem_cons_self), Option.getD_some,
        ih (fun x hx => h x (List.mem_cons_of_mem c hx)), Nat.mul_comm acc 10]
      rfl

/-- A fraction without the zeros at its end is read as the fraction. -/
theorem nanosOf_trimmed {nanos : Nat} (h : nanos < 1000000000) {ds : List Char} {k : Nat}
    (hds : (padded 9 nanos).toList = ds ++ List.replicate k '0') : nanosOf ds = nanos := by
  have hlength : ds.length + k = 9 := by
    have hnine : (padded 9 nanos).toList.length = 9 := length_padded (by decide) h
    rw [hds, List.length_append, List.length_replicate] at hnine
    exact hnine
  unfold nanosOf
  rw [List.take_of_length_le (by omega), show 9 - ds.length = k by omega, ← hds,
    foldl_digits (isDigit_padded 9 nanos), ofDigitChars_padded]

theorem toList_fractionText {nanos : Nat} (hpos : nanos ≠ 0) :
    (fractionText nanos).toList
      = '.' :: ((padded 9 nanos).toList.reverse.dropWhile (· == '0')).reverse := by
  unfold fractionText
  rw [if_neg hpos, String.toList_append, String.toList_ofList, String.toList_ofList,
    List.singleton_append]

theorem recordFraction?_point (rest : List Char) :
    recordFraction? ('.' :: rest)
      = if (rest.takeWhile isDigit).isEmpty then none
        else some (nanosOf (rest.takeWhile isDigit), rest.dropWhile isDigit) := rfl

/-- A fraction is read back where no further digit follows. -/
theorem recordFraction?_fractionText {nanos : Nat} (h : nanos < 1000000000) {rest : List Char}
    (hrest : ∀ c ∈ rest.head?, c.isDigit = false ∧ c ≠ '.') :
    recordFraction? ((fractionText nanos).toList ++ rest) = some (nanos, rest) := by
  by_cases hzero : nanos = 0
  · subst hzero
    show recordFraction? rest = some (0, rest)
    unfold recordFraction?
    split
    · exact absurd rfl (hrest '.' rfl).2
    · rfl
  · obtain ⟨k, hds⟩ := trim_zeros (padded 9 nanos).toList
    have hvalue := nanosOf_trimmed h hds
    rw [toList_fractionText hzero]
    generalize ((padded 9 nanos).toList.reverse.dropWhile (· == '0')).reverse = ds at hds hvalue
    have hdigits : ∀ c ∈ ds, isDigit c = true := by
      intro c hc
      refine (isSome_digit? c).trans (isDigit_padded 9 nanos c ?_)
      rw [hds]
      exact List.mem_append_left _ hc
    obtain ⟨htake, hdrop⟩ := span_append (p := isDigit)
      (fun c hc => (isSome_digit? c).trans (hrest c hc).1) ds
    rw [List.takeWhile_eq_self_iff.2 hdigits] at htake
    rw [List.dropWhile_eq_nil_iff.2 hdigits, List.nil_append] at hdrop
    have hne : ds.isEmpty = false := by
      cases ds with
      | nil => exact absurd hvalue.symm hzero
      | cons c ds => rfl
    rw [List.cons_append, recordFraction?_point, htake, hdrop, hne, hvalue]
    rfl

/-! ## §4. Offsets. -/

/-- Hours and minutes after a sign. -/
def offsetAfter? (negative : Bool) (cs : List Char) : Option (Int × List Char) := do
  let (hours, cs) ← digitsOf 2 cs
  let cs ← after ':' cs
  let (minutes, rest) ← digitsOf 2 cs
  if hours ≤ 25 ∧ minutes ≤ 59 then
    some (signed negative (hours * 3600 + minutes * 60), rest)
  else none

theorem recordOffset?_plus (cs : List Char) :
    recordOffset? ('+' :: cs) = offsetAfter? false cs := rfl

theorem recordOffset?_minus (cs : List Char) :
    recordOffset? ('-' :: cs) = offsetAfter? true cs := rfl

theorem after_cons (c : Char) (cs : List Char) : after c (c :: cs) = some cs := if_pos rfl

theorem offsetAfter?_padded (negative : Bool) {m : Nat} (h : m < 1440) (rest : List Char) :
    offsetAfter? negative ((padded 2 (m / 60)).toList
      ++ ':' :: ((padded 2 (m % 60)).toList ++ rest))
      = some (signed negative (m / 60 * 3600 + m % 60 * 60), rest) := by
  have hhours : m / 60 < Nat.pow 10 2 := by
    show m / 60 < 100
    omega
  have hminutes : m % 60 < Nat.pow 10 2 := by
    show m % 60 < 100
    omega
  unfold offsetAfter?
  simp only [digitsOf_padded (by decide) hhours, digitsOf_padded (by decide) hminutes, after_cons,
    Option.bind_eq_bind, Option.bind_some]
  rw [if_pos (by omega)]

theorem toList_offsetText {offset : Int} (h : offset ≠ 0) :
    (offsetText offset).toList = (if offset < 0 then '-' else '+')
      :: ((padded 2 (offset.natAbs / 60 / 60)).toList
        ++ ':' :: (padded 2 (offset.natAbs / 60 % 60)).toList) := by
  have hsign : (if offset < 0 then "-" else "+").toList = [if offset < 0 then '-' else '+'] := by
    split <;> rfl
  unfold offsetText
  rw [if_neg h]
  dsimp only
  rw [String.toList_append, String.toList_append, String.toList_append, hsign, List.append_assoc,
    List.append_assoc, String.toList_ofList, List.singleton_append, List.singleton_append]

/-- An offset of whole minutes below a day is read back. -/
theorem recordOffset?_offsetText {offset : Int} (hday : offset.natAbs < 86400)
    (hminutes : offset % 60 = 0) (rest : List Char) :
    recordOffset? ((offsetText offset).toList ++ rest) = some (offset, rest) := by
  by_cases hzero : offset = 0
  · subst hzero
    rfl
  · rw [toList_offsetText hzero, List.cons_append, List.append_assoc, List.cons_append]
    by_cases hneg : offset < 0
    · rw [if_pos hneg, recordOffset?_minus, offsetAfter?_padded true (by omega)]
      unfold signed
      rw [if_pos rfl]
      congr 2
      omega
    · rw [if_neg hneg, recordOffset?_plus, offsetAfter?_padded false (by omega)]
      unfold signed
      rw [if_neg Bool.false_ne_true]
      congr 2
      omega

/-! ## §5. The whole text. -/

theorem toList_clockText (day second : Int) (rest : List Char) :
    (clockText day second).toList ++ rest
      = (padded 4 (Date.ofDay day).year.toNat).toList
        ++ '-' :: ((padded 2 (Date.ofDay day).month).toList
        ++ '-' :: ((padded 2 (Date.ofDay day).day).toList
        ++ 'T' :: ((padded 2 (second.toNat / 3600)).toList
        ++ ':' :: ((padded 2 (second.toNat / 60 % 60)).toList
        ++ ':' :: ((padded 2 (second.toNat % 60)).toList ++ rest))))) := by
  have hdash : "-".toList = ['-'] := rfl
  have hcolon : ":".toList = [':'] := rfl
  have htee : "T".toList = ['T'] := rfl
  unfold clockText
  simp only [String.toList_append, hdash, hcolon, htee, List.append_assoc, List.cons_append,
    List.nil_append]

/-- What begins an offset is no part of a fraction. -/
theorem head_offsetText (offset : Int) :
    ∀ c ∈ (offsetText offset).toList.head?, c.isDigit = false ∧ c ≠ '.' := by
  intro c hc
  by_cases hzero : offset = 0
  · subst hzero
    obtain rfl := Option.some.inj hc
    decide
  · rw [toList_offsetText hzero] at hc
    obtain rfl := Option.some.inj hc
    split <;> decide

/-- A padded number is read, and the rest is left to what follows. -/
theorem digitsOf_bind {α : Type} {width n : Nat} (hwidth : 0 < width) (h : n < Nat.pow 10 width)
    (rest : List Char) (next : Nat × List Char → Option α) :
    (digitsOf width ((padded width n).toList ++ rest) >>= next) = next (n, rest) := by
  rw [digitsOf_padded hwidth h]
  rfl

/-- So is a mark. -/
theorem after_bind {α : Type} (c : Char) (cs : List Char) (next : List Char → Option α) :
    (after c (c :: cs) >>= next) = next cs := by
  rw [after_cons]
  rfl

/-- The time of day and what comes after it. -/
def clockAfter? (year month day : Nat) (cs : List Char) : Option Instant := do
  let (hour, cs) ← digitsOf 2 cs
  let cs ← after ':' cs
  let (minute, cs) ← digitsOf 2 cs
  let cs ← after ':' cs
  let (second, cs) ← digitsOf 2 cs
  let (nanos, cs) ← recordFraction? cs
  let (offset, cs) ← recordOffset? cs
  if !cs.isEmpty then none
  else
    let number ← ofCivil? year month day
    if !(hour ≤ 23 && minute ≤ 59 && second ≤ 60) then none
    else if second = 60 then
      let t := ofLocal number (hour * 3600 + minute * 60 + 59) 999999999 offset
      if endsMonth t then some t else none
    else some (ofLocal number (hour * 3600 + minute * 60 + second) nanos offset)

/-- A date is read first. -/
theorem readRecord?_date {year month day : Nat} (hyear : year < Nat.pow 10 4)
    (hmonth : month < Nat.pow 10 2) (hday : day < Nat.pow 10 2) (rest : List Char) :
    readRecord? ((padded 4 year).toList ++ '-' :: ((padded 2 month).toList
      ++ '-' :: ((padded 2 day).toList ++ 'T' :: rest))) = clockAfter? year month day rest := by
  unfold readRecord?
  rw [digitsOf_bind (by decide) hyear]
  dsimp only
  rw [after_bind, digitsOf_bind (by decide) hmonth]
  dsimp only
  rw [after_bind, digitsOf_bind (by decide) hday]
  rfl

/-- Then a time of day, with a fraction and an offset. -/
theorem clockAfter?_clock {year month day hour minute second nanos : Nat} {number offset : Int}
    {rest : List Char} (hdate : ofCivil? year month day = some number) (hhour : hour ≤ 23)
    (hminute : minute ≤ 59) (hsecond : second ≤ 59)
    (hfraction : recordFraction? rest = some (nanos, (offsetText offset).toList))
    (hoffset : recordOffset? (offsetText offset).toList = some (offset, [])) :
    clockAfter? year month day ((padded 2 hour).toList ++ ':' :: ((padded 2 minute).toList
      ++ ':' :: ((padded 2 second).toList ++ rest)))
      = some (ofLocal number (hour * 3600 + minute * 60 + second) nanos offset) := by
  have htwo : ∀ n ≤ 59, n < Nat.pow 10 2 := by
    intro n hn
    show n < 100
    omega
  have hclock : (decide (hour ≤ 23) && decide (minute ≤ 59) && decide (second ≤ 60)) = true := by
    simp only [Bool.and_eq_true, decide_eq_true_iff]
    omega
  unfold clockAfter?
  rw [digitsOf_bind (by decide) (htwo hour (by omega))]
  dsimp only
  rw [after_bind, digitsOf_bind (by decide) (htwo minute hminute)]
  dsimp only
  rw [after_bind, digitsOf_bind (by decide) (htwo second hsecond), hfraction]
  show (recordOffset? _ >>= _) = _
  rw [hoffset]
  show (ofCivil? _ _ _ >>= _) = _
  rw [hdate]
  show (if !_ then none else _) = _
  rw [hclock, Bool.not_true, if_neg Bool.false_ne_true, if_neg (by omega)]

/-- A date, a time of day, a fraction and an offset are read one after the other. -/
theorem readRecord?_clockText {day second offset : Int} {nanos : Nat}
    (hyear : 0 ≤ yearOf day ∧ yearOf day ≤ 9999) (hsecond : 0 ≤ second ∧ second < 86400)
    (hnanos : nanos < 1000000000) (hday : offset.natAbs < 86400) (hminutes : offset % 60 = 0) :
    readRecord? ((clockText day second).toList ++ ((fractionText nanos).toList
      ++ (offsetText offset).toList)) = some (ofLocal day second nanos offset) := by
  obtain ⟨-, htwelve, -, hlast, -⟩ := ofDay_spec day
  have hthirtyone := daysInMonth_le (Date.ofDay day).year (Date.ofDay day).month
  have hofDay : (Date.ofDay day).year = yearOf day := rfl
  have hcivil : ofCivil? ((Date.ofDay day).year.toNat : Int) (Date.ofDay day).month
      (Date.ofDay day).day = some day := by
    rw [hofDay, Int.toNat_of_nonneg hyear.1]
    exact ofCivil?_ofDay day
  -- Each piece fits its width.
  have hy : (Date.ofDay day).year.toNat < Nat.pow 10 4 := by
    show _ < 10000
    omega
  have hm : (Date.ofDay day).month < Nat.pow 10 2 := by
    show _ < 100
    omega
  have hd : (Date.ofDay day).day < Nat.pow 10 2 := by
    show _ < 100
    omega
  have hfraction := recordFraction?_fractionText hnanos (head_offsetText offset)
  have hoffset := recordOffset?_offsetText hday hminutes []
  rw [List.append_nil] at hoffset
  have hsum : ((second.toNat / 3600 : Nat) : Int) * 3600
      + ((second.toNat / 60 % 60 : Nat) : Int) * 60
      + ((second.toNat % 60 : Nat) : Int) = second := by omega
  rw [toList_clockText, readRecord?_date hy hm hd,
    clockAfter?_clock hcivil (by omega) (by omega) (by omega) hfraction hoffset, hsum]

/-- **A record text is read back.** -/
theorem readRecord?_recordText {t : Instant} {s : String} (hnanos : t.nanos < 1000000000)
    (h : t.recordText? = some s) : readRecord? s.toList = some t := by
  unfold recordText? localDay at h
  dsimp only at h
  split at h
  · rename_i hok
    obtain ⟨hyear, hfour, hday, hminutes⟩ := hok
    obtain rfl := Option.some.inj h
    rw [String.toList_append, String.toList_append, List.append_assoc,
      readRecord?_clockText ⟨hyear, hfour⟩ (by omega) hnanos hday hminutes]
    show some (Instant.mk _ _ _) = _
    congr 2
    omega
  · cases h

end Federation.Time
