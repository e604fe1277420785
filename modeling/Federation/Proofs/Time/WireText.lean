/-
  Federation.Proofs.Time.WireText
  ───────────────────────────────
  **TIMES SURVIVE THE WIRE.**

  What is sent of a moment is its last whole second, in UTC.  Where the year
  has four digits there, the text is made, it has one form, and it is read
  back as that second.  All its fields have a fixed width, the wider unit
  first, so texts compare as the moments do.

  Main results:
    * `ofDay_order` — dates are in the order of their days;
    * `clockText_order` — texts are in the order of their seconds;
    * `read_wireText` — a wire text is read back;
    * `wireText_faithful` — all of it together.
-/
import Federation.Keyed
import Federation.Proofs.Collect
import Federation.Proofs.Text.Blank
import Federation.Proofs.Time.RecordText
import Mathlib.Data.List.Forall2

namespace Federation.Time

open Text (isBlank trimChars trimChars_of_ends)

/-! ## §1. Days in order. -/

theorem daysBefore_mono {y z : Int} (h : y ≤ z) : daysBefore y ≤ daysBefore z := by
  unfold daysBefore
  omega

/-- A later day lies in no earlier year. -/
theorem yearOf_mono {m n : Int} (h : m ≤ n) : yearOf m ≤ yearOf n := by
  by_contra hlater
  have hyears := daysBefore_mono (show yearOf n + 1 ≤ yearOf m by omega)
  have hm := (yearOf_spec m).1
  have hn := (yearOf_spec n).2
  omega

/-- A month begins where the one before it ends. -/
theorem daysBeforeMonth_succ (y : Int) {month : Nat} (h : 1 ≤ month) :
    daysBeforeMonth y (month + 1) = daysBeforeMonth y month + daysInMonth y month := by
  obtain ⟨i, rfl⟩ := Nat.exists_eq_add_of_le' h
  rw [daysBeforeMonth_eq_sum, daysBeforeMonth_eq_sum, Nat.add_sub_cancel, Nat.add_sub_cancel,
    List.take_add_one, List.sum_append]
  show _ = _ + (monthLengths y)[i]?.getD 0
  cases (monthLengths y)[i]? <;> simp

theorem daysBeforeMonth_mono (y : Int) {a b : Nat} (hpos : 1 ≤ a) (h : a ≤ b) :
    daysBeforeMonth y a ≤ daysBeforeMonth y b := by
  induction b, h using Nat.le_induction with
  | base => exact Nat.le_refl _
  | succ b h ih =>
      rw [daysBeforeMonth_succ y (Nat.le_trans hpos h)]
      exact Nat.le_add_right_of_le ih

/-- **Dates are in the order of their days**: the year decides, then the month, then the day. -/
theorem ofDay_order {m n : Int} (h : m < n) :
    (Date.ofDay m).year < (Date.ofDay n).year ∨
      (Date.ofDay m).year = (Date.ofDay n).year ∧
        ((Date.ofDay m).month < (Date.ofDay n).month ∨
          (Date.ofDay m).month = (Date.ofDay n).month ∧
            (Date.ofDay m).day < (Date.ofDay n).day) := by
  obtain ⟨-, -, hday, -, hm⟩ := ofDay_spec m
  obtain ⟨hmonth, -, -, hlast, hn⟩ := ofDay_spec n
  have hyears : (Date.ofDay m).year ≤ (Date.ofDay n).year := yearOf_mono (Int.le_of_lt h)
  rcases Int.lt_or_eq_of_le hyears with hyear | hyear
  · exact .inl hyear
  · refine .inr ⟨hyear, ?_⟩
    rw [hyear] at hm
    rcases Nat.lt_trichotomy (Date.ofDay m).month (Date.ofDay n).month with hlt | heq | hgt
    · exact .inl hlt
    · rw [heq] at hm
      exact .inr ⟨heq, by omega⟩
    · -- The later day would lie before the end of an earlier month.
      have hnext := daysBeforeMonth_mono (Date.ofDay n).year (Nat.succ_pos _) (Nat.succ_le_of_lt hgt)
      rw [Nat.succ_eq_add_one, daysBeforeMonth_succ _ hmonth] at hnext
      omega

/-! ## §2. Texts in order. -/

/-- Whether characters do not come after others. -/
def NotAfter (as bs : List Char) : Prop := charsBefore bs as = false

theorem notAfter_cons {a b : Char} {as bs : List Char}
    (h : a.toNat < b.toNat ∨ a = b ∧ NotAfter as bs) : NotAfter (a :: as) (b :: bs) := by
  unfold NotAfter charsBefore
  rcases h with hlt | ⟨rfl, hrest⟩
  · have hne : b ≠ a := fun heq => Nat.ne_of_gt hlt (congrArg Char.toNat heq)
    rw [if_neg hne]
    refine Bool.eq_false_iff.2 fun hblt => ?_
    rw [Nat.blt_eq] at hblt
    omega
  · rw [if_pos rfl]
    exact hrest

/-- Where the fronts differ they decide. -/
theorem notAfter_append_of_before {as bs : List Char} (hlength : as.length = bs.length)
    (h : charsBefore as bs = true) (cs ds : List Char) : NotAfter (as ++ cs) (bs ++ ds) := by
  induction as generalizing bs with
  | nil =>
      obtain rfl := List.length_eq_zero_iff.1 hlength.symm
      cases h
  | cons a as ih =>
      obtain ⟨b, bs, rfl⟩ := List.exists_cons_of_length_eq_add_one hlength.symm
      refine notAfter_cons ?_
      unfold charsBefore at h
      split at h
      · rename_i heq
        exact .inr ⟨heq, ih (Nat.succ.inj hlength) h⟩
      · rw [Nat.blt_eq] at h
        exact .inl h

/-- Otherwise what follows them does. -/
theorem notAfter_append (as : List Char) {cs ds : List Char} (h : NotAfter cs ds) :
    NotAfter (as ++ cs) (as ++ ds) := by
  induction as with
  | nil => exact h
  | cons a as ih => exact notAfter_cons (.inr ⟨rfl, ih⟩)

/-- The number that is ahead stays ahead when as many digits follow on both sides. -/
theorem ofDigitChars_lt_of_lt {as bs : List Char} (hlength : as.length = bs.length)
    (ha : ∀ c ∈ as, c.isDigit = true) {m n : Nat} (h : m < n) :
    Nat.ofDigitChars 10 as m < Nat.ofDigitChars 10 bs n := by
  induction as generalizing bs m n with
  | nil =>
      obtain rfl := List.length_eq_zero_iff.1 hlength.symm
      exact h
  | cons a as ih =>
      obtain ⟨b, bs, rfl⟩ := List.exists_cons_of_length_eq_add_one hlength.symm
      have hdigit : 48 ≤ a.toNat ∧ a.toNat ≤ 57 := Char.isDigit_iff_toNat.1 (ha a List.mem_cons_self)
      refine ih (Nat.succ.inj hlength) (fun c hc => ha c (List.mem_cons_of_mem a hc)) ?_
      show 10 * m + (a.toNat - 48) < 10 * n + (b.toNat - 48)
      omega

/-- Of two runs of as many digits, the one that comes first writes less. -/
theorem ofDigitChars_lt_of_before {as bs : List Char} (hlength : as.length = bs.length)
    (ha : ∀ c ∈ as, c.isDigit = true) (h : charsBefore as bs = true) (acc : Nat) :
    Nat.ofDigitChars 10 as acc < Nat.ofDigitChars 10 bs acc := by
  induction as generalizing bs acc with
  | nil =>
      obtain rfl := List.length_eq_zero_iff.1 hlength.symm
      cases h
  | cons a as ih =>
      obtain ⟨b, bs, rfl⟩ := List.exists_cons_of_length_eq_add_one hlength.symm
      have hrest : ∀ c ∈ as, c.isDigit = true := fun c hc => ha c (List.mem_cons_of_mem a hc)
      unfold charsBefore at h
      split at h
      · rename_i heq
        rw [heq]
        exact ih (Nat.succ.inj hlength) hrest h _
      · rw [Nat.blt_eq] at h
        have hdigit : 48 ≤ a.toNat ∧ a.toNat ≤ 57 :=
          Char.isDigit_iff_toNat.1 (ha a List.mem_cons_self)
        refine ofDigitChars_lt_of_lt (Nat.succ.inj hlength) hrest ?_
        show 10 * acc + (a.toNat - 48) < 10 * acc + (b.toNat - 48)
        omega

namespace Instant

/-- **Padded numbers are in the order of the numbers.** -/
theorem padded_before {width m n : Nat} (hwidth : 0 < width) (hn : n < Nat.pow 10 width)
    (h : m < n) : charsBefore (padded width m).toList (padded width n).toList = true := by
  have hlength : (padded width n).toList.length = (padded width m).toList.length :=
    (length_padded hwidth hn).trans (length_padded hwidth (Nat.lt_trans h hn)).symm
  have hne : (padded width m).toList ≠ (padded width n).toList := by
    intro heq
    have hm := ofDigitChars_padded width m
    rw [heq, ofDigitChars_padded] at hm
    exact absurd hm (Nat.ne_of_gt h)
  rcases charsBefore_total hne with hbefore | hbefore
  · exact hbefore
  · have hlt := ofDigitChars_lt_of_before hlength (isDigit_padded width n) hbefore 0
    rw [ofDigitChars_padded, ofDigitChars_padded] at hlt
    exact absurd hlt (Nat.lt_asymm h)

/-- A field decides where it differs, and otherwise what follows it. -/
theorem notAfter_padded {width m n : Nat} (hwidth : 0 < width) (hn : n < Nat.pow 10 width)
    {cs ds : List Char} (h : m < n ∨ m = n ∧ NotAfter cs ds) :
    NotAfter ((padded width m).toList ++ cs) ((padded width n).toList ++ ds) := by
  rcases h with hlt | ⟨rfl, hrest⟩
  · refine notAfter_append_of_before ?_ (padded_before hwidth hn hlt) cs ds
    rw [length_padded hwidth hn, length_padded hwidth (Nat.lt_trans hlt hn)]
  · exact notAfter_append _ hrest

end Instant

open Instant

/-- A mark that both have decides nothing. -/
theorem notAfter_mark (mark : Char) {cs ds : List Char} (h : NotAfter cs ds) :
    NotAfter (mark :: cs) (mark :: ds) := notAfter_cons (.inr ⟨rfl, h⟩)

/-- The time of day, from the hour on. -/
theorem notAfter_timeOfDay {a b : Nat} (hb : b < 86400) (h : a ≤ b) {rest : List Char} :
    NotAfter ((padded 2 (a / 3600)).toList ++ ':' :: ((padded 2 (a / 60 % 60)).toList
        ++ ':' :: ((padded 2 (a % 60)).toList ++ rest)))
      ((padded 2 (b / 3600)).toList ++ ':' :: ((padded 2 (b / 60 % 60)).toList
        ++ ':' :: ((padded 2 (b % 60)).toList ++ rest))) := by
  have hfits {n : Nat} (hn : n < 60) : n < Nat.pow 10 2 := by
    show n < 100
    omega
  have hend : NotAfter rest rest := charsBefore_irrefl rest
  refine notAfter_padded (by decide) (hfits (by omega)) ?_
  by_cases hhour : a / 3600 = b / 3600
  · refine .inr ⟨hhour, notAfter_mark ':' (notAfter_padded (by decide) (hfits (by omega)) ?_)⟩
    by_cases hminute : a / 60 % 60 = b / 60 % 60
    · refine .inr ⟨hminute, notAfter_mark ':' (notAfter_padded (by decide) (hfits (by omega)) ?_)⟩
      rcases Nat.lt_or_eq_of_le (show a % 60 ≤ b % 60 by omega) with hlt | heq
      · exact .inl hlt
      · exact .inr ⟨heq, hend⟩
    · exact .inl (by omega)
  · exact .inl (by omega)

/-- The year of a second in UTC. -/
def utcYear (seconds : Int) : Int := yearOf (seconds / 86400)

/-- **Texts are in the order of their seconds**, as long as the years have four digits. -/
theorem clockText_order {s u : Int} (hs : 0 ≤ utcYear s) (hu : utcYear u ≤ 9999) (h : s ≤ u)
    (rest : List Char) :
    NotAfter ((clockText (s / 86400) (s % 86400)).toList ++ rest)
      ((clockText (u / 86400) (u % 86400)).toList ++ rest) := by
  obtain ⟨-, hmonth, -, hlast, -⟩ := ofDay_spec (u / 86400)
  have hday := daysInMonth_le (Date.ofDay (u / 86400)).year (Date.ofDay (u / 86400)).month
  have hfrom : 0 ≤ (Date.ofDay (s / 86400)).year := hs
  have hto : (Date.ofDay (u / 86400)).year ≤ 9999 := hu
  have hfour : (Date.ofDay (u / 86400)).year.toNat < Nat.pow 10 4 := by
    show _ < 10000
    omega
  have htwo {n : Nat} (hn : n ≤ 31) : n < Nat.pow 10 2 := by
    show n < 100
    omega
  rw [toList_clockText, toList_clockText]
  refine notAfter_padded (by decide) hfour ?_
  rcases Int.lt_or_eq_of_le (show s / 86400 ≤ u / 86400 by omega) with hbefore | hsame
  · -- On an earlier day the date decides.
    rcases ofDay_order hbefore with hyear | ⟨hyear, hrest⟩
    · exact .inl (by omega)
    · refine .inr ⟨by rw [hyear], notAfter_mark '-' (notAfter_padded (by decide)
        (htwo (by omega)) ?_)⟩
      rcases hrest with hearlier | ⟨heq, hearlier⟩
      · exact .inl hearlier
      · refine .inr ⟨heq, notAfter_mark '-' (notAfter_padded (by decide) (htwo (by omega)) ?_)⟩
        exact .inl hearlier
  · rw [hsame]
    refine .inr ⟨rfl, notAfter_mark '-' (notAfter_append _ (notAfter_mark '-'
      (notAfter_append _ (notAfter_mark 'T' ?_))))⟩
    exact notAfter_timeOfDay (by omega) (by omega)

/-! ## §3. Bytes. -/

/-- The bytes of a text. -/
def utf8 (s : String) : List UInt8 := s.toUTF8.data.toList

theorem utf8_eq (s : String) : utf8 s = s.toList.flatMap String.utf8EncodeChar := by
  have hbytes : (String.ofList s.toList).toByteArray = s.toList.utf8Encode :=
    String.toByteArray_ofList
  rw [String.ofList_toList] at hbytes
  unfold utf8
  rw [String.toUTF8_eq_toByteArray, hbytes]
  exact List.toList_data_toByteArray

/-- An ASCII character is one byte. -/
theorem utf8EncodeChar_ascii {c : Char} (h : c.toNat < 128) :
    String.utf8EncodeChar c = [UInt8.ofNat c.toNat] := if_pos (Nat.le_of_lt_succ h)

/-- **ASCII texts are in the order of their bytes.** -/
theorem utf8_le {as bs : List Char} (ha : ∀ c ∈ as, c.toNat < 128) (hb : ∀ c ∈ bs, c.toNat < 128)
    (h : NotAfter as bs) :
    as.flatMap String.utf8EncodeChar ≤ bs.flatMap String.utf8EncodeChar := by
  induction as generalizing bs with
  | nil => exact List.nil_le _
  | cons a as ih =>
      cases bs with
      | nil => cases h
      | cons b bs =>
          have hfirst := ha a List.mem_cons_self
          have hother := hb b List.mem_cons_self
          rw [List.flatMap_cons, List.flatMap_cons, utf8EncodeChar_ascii hfirst,
            utf8EncodeChar_ascii hother, List.singleton_append, List.singleton_append,
            List.cons_le_cons_iff]
          by_cases heq : a = b
          · unfold NotAfter charsBefore at h
            rw [if_pos heq.symm] at h
            exact .inr ⟨by rw [heq], ih (fun c hc => ha c (List.mem_cons_of_mem a hc))
              (fun c hc => hb c (List.mem_cons_of_mem b hc)) h⟩
          · unfold NotAfter charsBefore at h
            rw [if_neg (Ne.symm heq), Bool.eq_false_iff, ne_eq, Nat.blt_eq] at h
            have hne : a.toNat ≠ b.toNat := fun hnat => heq (Char.toNat_inj.1 hnat)
            refine .inl (UInt8.lt_iff_toNat_lt.2 ?_)
            rw [UInt8.toNat_ofNat', UInt8.toNat_ofNat']
            omega

/-! ## §4. What is sent. -/

/-- **A moment that has a wire text**: its fraction is less than a second, and in UTC its year
has four digits. -/
structure Instant.Sendable (t : Instant) : Prop where
  proper : t.nanos < 1000000000
  year : 0 ≤ utcYear t.seconds ∧ utcYear t.seconds ≤ 9999

/-- The days of the calendar are those of its years. -/
theorem inCalendar_iff (n : Int) : inCalendar n = true ↔ minYear ≤ yearOf n ∧ yearOf n ≤ maxYear := by
  obtain ⟨hfrom, hto⟩ := yearOf_spec n
  unfold inCalendar
  rw [Bool.and_eq_true, decide_eq_true_iff, decide_eq_true_iff]
  constructor
  · rintro ⟨hmin, hmax⟩
    constructor
    · by_contra hyear
      have hbefore := daysBefore_mono (show yearOf n + 1 ≤ minYear by omega)
      omega
    · by_contra hyear
      have hafter := daysBefore_mono (show maxYear + 1 ≤ yearOf n by omega)
      omega
  · rintro ⟨hmin, hmax⟩
    have hbefore := daysBefore_mono hmin
    have hafter := daysBefore_mono (show yearOf n + 1 ≤ maxYear + 1 by omega)
    omega

/-- The day and the second of the day in UTC, whatever the offset. -/
theorem localDay_utc (t : Instant) : t.utc.whole.localDay = (t.seconds / 86400, t.seconds % 86400) := by
  show ((t.seconds + 0) / 86400, (t.seconds + 0) % 86400) = _
  rw [Int.add_zero]

theorem recordText?_utc (t : Instant) :
    t.utc.whole.recordText? = if 0 ≤ utcYear t.seconds ∧ utcYear t.seconds ≤ 9999 then
      some (clockText (t.seconds / 86400) (t.seconds % 86400) ++ "Z") else none := by
  unfold recordText?
  rw [localDay_utc]
  show (if 0 ≤ utcYear t.seconds ∧ utcYear t.seconds ≤ 9999 ∧ Int.natAbs 0 < 86400 ∧ (0 : Int) % 60 = 0
    then some (clockText (t.seconds / 86400) (t.seconds % 86400) ++ "" ++ "Z") else none) = _
  rw [String.append_empty]
  simp

/-- **What is sent of a moment**: its text where the year has four digits, and otherwise a fault,
which tells whether the year is one of the calendar. -/
theorem wireText_eq (t : Instant) : t.wireText =
    if 0 ≤ utcYear t.seconds ∧ utcYear t.seconds ≤ 9999 then
      .ok (clockText (t.seconds / 86400) (t.seconds % 86400) ++ "Z")
    else if minYear ≤ utcYear t.seconds ∧ utcYear t.seconds ≤ maxYear then .error .yearOutOfText
    else .error .outOfCalendar := by
  have hmin : minYear = -9999 := rfl
  have hmax : maxYear = 9999 := rfl
  have hcalendar := inCalendar_iff (t.seconds / 86400)
  change _ ↔ minYear ≤ utcYear t.seconds ∧ utcYear t.seconds ≤ maxYear at hcalendar
  unfold wireText
  dsimp only
  rw [localDay_utc, recordText?_utc]
  by_cases hday : inCalendar (t.seconds / 86400) = true
  · rw [if_pos (hcalendar.1 hday), hday, Bool.not_true, if_neg Bool.false_ne_true]
    split
    · rename_i htext
      rw [Option.ite_none_right_eq_some] at htext
      rw [if_pos htext.1, Option.some.inj htext.2]
    · rename_i htext
      rw [if_neg fun hyear => by rw [if_pos hyear] at htext; cases htext]
  · have hyear := hcalendar.not.1 hday
    have hfour : ¬(0 ≤ utcYear t.seconds ∧ utcYear t.seconds ≤ 9999) := by omega
    rw [if_neg hfour, if_neg hfour, if_neg hyear, eq_false_of_ne_true hday, Bool.not_false,
      if_pos rfl]

theorem wireText_eq_ok_iff {t : Instant} {s : String} : t.wireText = .ok s ↔
    (0 ≤ utcYear t.seconds ∧ utcYear t.seconds ≤ 9999) ∧
      s = clockText (t.seconds / 86400) (t.seconds % 86400) ++ "Z" := by
  rw [wireText_eq]
  split
  · rename_i hyear
    rw [Except.ok.injEq, eq_comm]
    exact (and_iff_right hyear).symm
  · rename_i hyear
    split
    · exact ⟨fun h => (nomatch h), fun h => absurd h.1 hyear⟩
    · exact ⟨fun h => (nomatch h), fun h => absurd h.1 hyear⟩

/-! ## §5. The form of what is sent. -/

/-- Whether a character stands where a pattern says: a digit for a hash, otherwise itself. -/
def Stands (mark c : Char) : Prop := if mark = '#' then c.isDigit = true else c = mark

/-- **The form of a wire text.** -/
def WireForm (s : String) : Prop := List.Forall₂ Stands "####-##-##T##:##:##Z".toList s.toList

theorem stands_padded {width n : Nat} (hwidth : 0 < width) (h : n < Nat.pow 10 width) :
    List.Forall₂ Stands (List.replicate width '#') (padded width n).toList := by
  have hlength := length_padded hwidth h
  have hdigits := isDigit_padded width n
  generalize (padded width n).toList = cs at hlength hdigits
  subst hlength
  clear h hwidth
  induction cs with
  | nil => exact .nil
  | cons c cs ih =>
      exact .cons (hdigits c List.mem_cons_self) (ih fun x hx => hdigits x (List.mem_cons_of_mem c hx))

/-- A field and the mark after it. -/
theorem stands_field {width n : Nat} (hwidth : 0 < width) (h : n < Nat.pow 10 width) {mark : Char}
    (hmark : mark ≠ '#') {pattern rest : List Char} (hrest : List.Forall₂ Stands pattern rest) :
    List.Forall₂ Stands (List.replicate width '#' ++ mark :: pattern)
      ((padded width n).toList ++ mark :: rest) := by
  have hstands : Stands mark mark := by
    unfold Stands
    rw [if_neg hmark]
  exact List.rel_append (stands_padded hwidth h) (.cons hstands hrest)

theorem toList_wire (day second : Int) :
    (clockText day second ++ "Z").toList = (clockText day second).toList ++ ['Z'] :=
  String.toList_append

/-- **A wire text has the form.** -/
theorem wireForm_clockText {day second : Int} (hyear : 0 ≤ yearOf day ∧ yearOf day ≤ 9999)
    (hsecond : 0 ≤ second ∧ second < 86400) : WireForm (clockText day second ++ "Z") := by
  obtain ⟨-, hmonth, -, hlast, -⟩ := ofDay_spec day
  have hday := daysInMonth_le (Date.ofDay day).year (Date.ofDay day).month
  have hofDay : (Date.ofDay day).year = yearOf day := rfl
  have hfour : (Date.ofDay day).year.toNat < Nat.pow 10 4 := by
    show _ < 10000
    omega
  have htwo {n : Nat} (hn : n ≤ 59) : n < Nat.pow 10 2 := by
    show n < 100
    omega
  have hpattern : "####-##-##T##:##:##Z".toList = List.replicate 4 '#'
      ++ '-' :: (List.replicate 2 '#' ++ '-' :: (List.replicate 2 '#'
      ++ 'T' :: (List.replicate 2 '#' ++ ':' :: (List.replicate 2 '#'
      ++ ':' :: (List.replicate 2 '#' ++ ['Z']))))) := rfl
  unfold WireForm
  rw [toList_wire, toList_clockText, hpattern]
  refine stands_field (by decide) hfour (by decide) ?_
  refine stands_field (by decide) (htwo (by omega)) (by decide) ?_
  refine stands_field (by decide) (htwo (by omega)) (by decide) ?_
  refine stands_field (by decide) (htwo (by omega)) (by decide) ?_
  refine stands_field (by decide) (htwo (by omega)) (by decide) ?_
  exact stands_field (by decide) (htwo (by omega)) (by decide) .nil

/-- Such a text is ASCII, and none of it is blank. -/
theorem visible_of_wireForm {s : String} (h : WireForm s) :
    ∀ c ∈ s.toList, 33 ≤ c.toNat ∧ c.toNat < 127 := by
  have hmarks : ∀ mark ∈ "####-##-##T##:##:##Z".toList, 33 ≤ mark.toNat ∧ mark.toNat < 127 := by simp
  intro c hc
  unfold WireForm at h
  generalize "####-##-##T##:##:##Z".toList = pattern at h hmarks
  generalize s.toList = cs at h hc
  -- Along the pattern: a `#` is a place for a digit, and any other mark stands for itself.
  induction h with
  | nil => cases hc
  | @cons mark x pattern cs hstands hrest ih =>
      rcases List.mem_cons.1 hc with rfl | hc
      · unfold Stands at hstands
        split at hstands
        · have hdigit : 48 ≤ c.toNat ∧ c.toNat ≤ 57 := Char.isDigit_iff_toNat.1 hstands
          omega
        · rw [hstands]
          exact hmarks mark List.mem_cons_self
      · exact ih (fun m hm => hmarks m (List.mem_cons_of_mem mark hm)) hc

theorem ascii_of_wireForm {s : String} (h : WireForm s) : ∀ c ∈ s.toList, c.toNat < 128 :=
  fun c hc => Nat.lt_succ_of_lt (visible_of_wireForm h c hc).2

/-- Nothing is trimmed off it. -/
theorem trimChars_of_wireForm {s : String} (h : WireForm s) : trimChars s.toList = s.toList := by
  have hplain : ∀ c ∈ s.toList, isBlank c = false := by
    intro c hc
    have hvisible := visible_of_wireForm h c hc
    unfold isBlank
    simp only [Bool.or_eq_false_iff, Bool.and_eq_false_iff, decide_eq_false_iff_not,
      beq_eq_false_iff_ne]
    omega
  exact trimChars_of_ends (fun c hc => hplain c (List.mem_of_mem_head? hc))
    (fun c hc => hplain c (List.mem_of_getLast? hc))

/-! ## §6. Back again. -/

/-- **A wire text is read back** as the moment in UTC without its fraction. -/
theorem read_wireText {t : Instant} {s : String} (h : t.wireText = .ok s) :
    Instant.read s = .ok t.utc.whole := by
  obtain ⟨hyear, hs⟩ := wireText_eq_ok_iff.1 h
  have hform : WireForm s := by
    rw [hs]
    exact wireForm_clockText hyear (by omega)
  have htext : t.utc.whole.recordText? = some s := by rw [recordText?_utc, if_pos hyear, hs]
  have hback : readRecord? s.toList = some t.utc.whole :=
    readRecord?_recordText (show 0 < 1000000000 by decide) htext
  unfold Instant.read
  dsimp only
  rw [trimChars_of_wireForm hform, hback]

/-- The fraction and the offset make no difference. -/
theorem wireText_congr {t u : Instant} (h : t.seconds = u.seconds) : t.wireText = u.wireText := by
  rw [wireText_eq, wireText_eq, h]

/-- **A text already in the wire form of its moment stays as it is.** -/
theorem normalise_normalise {s c : String} (h : normalise s = .ok c) : normalise c = .ok c := by
  obtain ⟨t, -, ht⟩ := exists_of_bind_ok h
  unfold normalise
  rw [read_wireText ht]
  show t.utc.whole.wireText = .ok c
  rw [← ht]
  exact wireText_congr rfl

/-- **The greatest whole second that is not after a moment**, in UTC. -/
structure LastWholeSecond (t g : Instant) : Prop where
  utc : g.offset = 0
  whole : g.nanos = 0
  notAfter : g.total ≤ t.total
  greatest : ∀ u : Instant, u.nanos = 0 → u.total ≤ t.total → u.total ≤ g.total

theorem lastWholeSecond_whole {t : Instant} (h : t.nanos < 1000000000) :
    LastWholeSecond t t.utc.whole where
  utc := rfl
  whole := rfl
  notAfter := by
    show t.seconds * 1000000000 + ((0 : Nat) : Int) ≤ t.seconds * 1000000000 + t.nanos
    omega
  greatest := by
    intro u hwhole hle
    unfold Instant.total at hle ⊢
    show _ ≤ t.seconds * 1000000000 + ((0 : Nat) : Int)
    omega

/-- A moment has one last whole second. -/
theorem seconds_le_of_total_le {t u : Instant} (ht : t.nanos < 1000000000)
    (hu : u.nanos < 1000000000) (h : t.total ≤ u.total) : t.seconds ≤ u.seconds := by
  unfold Instant.total at h
  omega

/-- **Times survive the wire.**  A moment whose year in UTC has four digits has a text of the
one form, which is read as its last whole second; the text is that of the moment, in whatever
offset it is shown; texts are in the order of the moments; and a text that was normalised
once is not changed again. -/
theorem wireText_faithful :
    (∀ t : Instant, t.Sendable → ∃ s g, t.wireText = .ok s ∧ WireForm s ∧
      Instant.read s = .ok g ∧ LastWholeSecond t g) ∧
    (∀ t u : Instant, t.nanos < 1000000000 → u.nanos < 1000000000 → t.total = u.total →
      t.wireText = u.wireText) ∧
    (∀ (t u : Instant) (a b : String), t.nanos < 1000000000 → u.nanos < 1000000000 →
      t.wireText = .ok a → u.wireText = .ok b → t.total ≤ u.total → utf8 a ≤ utf8 b) ∧
    ∀ s c : String, normalise s = .ok c → normalise c = .ok c := by
  refine ⟨fun t h => ?_, fun t u ht hu h => ?_, fun t u a b ht hu ha hb h => ?_,
    fun s c => normalise_normalise⟩
  · have htext := wireText_eq_ok_iff.2 ⟨h.year, rfl⟩
    exact ⟨_, _, htext, wireForm_clockText h.year (by omega), read_wireText htext,
      lastWholeSecond_whole h.proper⟩
  · exact wireText_congr (Int.le_antisymm (seconds_le_of_total_le ht hu (Int.le_of_eq h))
      (seconds_le_of_total_le hu ht (Int.le_of_eq h.symm)))
  · obtain ⟨hfrom, rfl⟩ := wireText_eq_ok_iff.1 ha
    obtain ⟨hto, rfl⟩ := wireText_eq_ok_iff.1 hb
    have horder := clockText_order hfrom.1 hto.2 (seconds_le_of_total_le ht hu h) ['Z']
    rw [← toList_wire, ← toList_wire] at horder
    rw [utf8_eq, utf8_eq]
    exact utf8_le (ascii_of_wireForm (wireForm_clockText hfrom (by omega)))
      (ascii_of_wireForm (wireForm_clockText hto (by omega))) horder

/-- Half a second before 1970 at two offsets, a leap day after it, and the leap day written at
an offset that shifts it from the day before. -/
theorem wireText_before_1970 : ∃ s g,
    Instant.wireText ⟨-1, 500000000, 7200⟩ = .ok s ∧ s = "1969-12-31T23:59:59Z" ∧ WireForm s ∧
      Instant.read s = .ok g ∧ LastWholeSecond ⟨-1, 500000000, 7200⟩ g ∧
      Instant.wireText ⟨-1, 500000000, 7200⟩ = Instant.wireText ⟨-1, 500000000, -18000⟩ ∧
      utf8 "1969-12-31T23:59:59Z" ≤ utf8 "2000-02-29T00:00:00Z" ∧
      normalise "2000-02-29T00:00:00Z" = .ok "2000-02-29T00:00:00Z" := by
  obtain ⟨hsent, hinstant, horder, hagain⟩ := wireText_faithful
  have hfirst : Instant.wireText ⟨-1, 500000000, 7200⟩ = .ok "1969-12-31T23:59:59Z" := by
    decide +kernel
  have hleap : Instant.wireText ⟨951782400, 1, 0⟩ = .ok "2000-02-29T00:00:00Z" := by
    decide +kernel
  have hread : normalise "2000-02-28T22:30:00.25-01:30" = .ok "2000-02-29T00:00:00Z" := by
    decide +kernel
  obtain ⟨s, g, htext, hform, hback, hlast⟩ :=
    hsent ⟨-1, 500000000, 7200⟩ ⟨by decide, by decide⟩
  exact ⟨s, g, htext, Except.ok.inj (htext.symm.trans hfirst), hform, hback, hlast,
    hinstant _ _ (by decide) (by decide) rfl,
    horder _ _ _ _ (by decide) (by decide) hfirst hleap (by decide), hagain _ _ hread⟩

end Federation.Time
