/-
  Federation.Proofs.Time.Bounds
  ─────────────────────────────
  **WHERE A TIME LIES THAT A TEXT WRITES.**

  What is read has an offset of little more than a day, and its local date
  lies in the calendar, or at most three days from it where the date is
  named by its week.  So a text can be shown in UTC wherever its local year
  is neither the first nor the last; at either end the offset decides.

  Main results:
    * `written_of_read` — what holds of every moment that is read;
    * `normalise_eq_outOfCalendar_iff` — the texts that leave the calendar;
    * `not_overhangs_of_inner` — no text of an inner year does.
-/
import Federation.Proofs.Time.WireText

namespace Federation.Time

open Text (digit? decimal? decimalFrom)

/-! ## §1. Numbers of so many digits. -/

theorem digit?_lt {c : Char} {d : Nat} (h : digit? c = some d) : d < 10 := by
  unfold digit? at h
  split at h
  · rename_i hdigit
    obtain rfl := Option.some.inj h
    have hlast : c.toNat ≤ 57 := hdigit.2
    show c.toNat - 48 < 10
    omega
  · cases h

/-- One more digit in front of `k` others. -/
theorem lt_of_digit {n acc d k : Nat} (hd : d < 10) (h : n < (acc * 10 + d + 1) * 10 ^ k) :
    n < (acc + 1) * 10 ^ (k + 1) :=
  calc n < (acc * 10 + d + 1) * 10 ^ k := h
    _ ≤ (acc + 1) * 10 * 10 ^ k := Nat.mul_le_mul_right _ (by omega)
    _ = (acc + 1) * 10 ^ (k + 1) := by rw [Nat.pow_succ, Nat.mul_assoc, Nat.mul_comm 10]

theorem decimalFrom_lt {cs : List Char} {acc n : Nat} (h : decimalFrom acc cs = some n) :
    n < (acc + 1) * 10 ^ cs.length := by
  induction cs generalizing acc with
  | nil =>
      obtain rfl := Option.some.inj h
      rw [List.length_nil, Nat.pow_zero, Nat.mul_one]
      exact Nat.lt_succ_self acc
  | cons c cs ih =>
      obtain ⟨d, hd, h⟩ := Option.bind_eq_some_iff.1 h
      exact lt_of_digit (digit?_lt hd) (ih h)

/-- A number of `n` digits is less than the power of ten. -/
theorem digitsOf_lt {n k : Nat} {cs rest : List Char} (h : digitsOf n cs = some (k, rest)) :
    k < 10 ^ n := by
  unfold digitsOf at h
  dsimp only at h
  split at h
  · rename_i hlength
    obtain ⟨m, hm, heq⟩ := Option.map_eq_some_iff.1 h
    obtain ⟨rfl, -⟩ := Prod.mk.inj heq
    unfold decimal? at hm
    split at hm
    · cases hm
    · have hlt := decimalFrom_lt hm
      rw [hlength, Nat.zero_add, Nat.one_mul] at hlt
      exact hlt
  · cases h

/-- A fraction is less than a second. -/
theorem nanosOf_lt (ds : List Char) : nanosOf ds < 1000000000 := by
  have hfold : ∀ (cs : List Char) (acc : Nat),
      cs.foldl (fun acc c => acc * 10 + (digit? c).getD 0) acc < (acc + 1) * 10 ^ cs.length := by
    intro cs
    induction cs with
    | nil =>
        intro acc
        rw [List.foldl_nil, List.length_nil, Nat.pow_zero, Nat.mul_one]
        exact Nat.lt_succ_self acc
    | cons c cs ih =>
        intro acc
        have hdigit : (digit? c).getD 0 < 10 := by
          cases hd : digit? c with
          | none => exact Nat.succ_pos 9
          | some d => exact digit?_lt hd
        exact lt_of_digit hdigit (ih _)
  have hlength : (ds.take 9 ++ List.replicate (9 - ds.length) '0').length = 9 := by
    rw [List.length_append, List.length_take, List.length_replicate]
    omega
  have hlt := hfold (ds.take 9 ++ List.replicate (9 - ds.length) '0') 0
  rw [hlength] at hlt
  exact hlt

/-! ## §2. Dates. -/

/-- A day lies in one year. -/
theorem yearOf_eq {y n : Int} (hfrom : daysBefore y ≤ n) (hto : n < daysBefore (y + 1)) :
    yearOf n = y := by
  obtain ⟨hstart, hend⟩ := yearOf_spec n
  rcases Int.lt_trichotomy (yearOf n) y with hlt | heq | hgt
  · have hyears := daysBefore_mono (show yearOf n + 1 ≤ y by omega)
    omega
  · exact heq
  · have hyears := daysBefore_mono (show y + 1 ≤ yearOf n by omega)
    omega

/-- A date lies in its year. -/
theorem yearOf_ofCivil? {y n : Int} {month day : Nat} (h : ofCivil? y month day = some n) :
    yearOf n = y := by
  unfold ofCivil? at h
  split at h
  · rename_i hdate
    obtain ⟨hmonth, htwelve, hday, hlast⟩ := hdate
    obtain rfl := Option.some.inj h
    have hnext := daysBeforeMonth_succ y hmonth
    have hyear : daysBeforeMonth y (month + 1) ≤ daysBeforeMonth y 13 :=
      daysBeforeMonth_mono y (Nat.succ_pos month) (Nat.succ_le_succ htwelve)
    have hthirteen := daysBeforeMonth_thirteen y
    have hsucc := daysBefore_succ y
    exact yearOf_eq (by omega) (by omega)
  · cases h

theorem yearOf_ofOrdinal? {y n : Int} {ordinal : Nat} (h : ofOrdinal? y ordinal = some n) :
    yearOf n = y := by
  unfold ofOrdinal? at h
  split at h
  · obtain rfl := Option.some.inj h
    have hsucc := daysBefore_succ y
    exact yearOf_eq (by omega) (by omega)
  · cases h

/-- A day named by its week lies at most three days from the year. -/
theorem ofWeek?_near {y n : Int} {week day : Nat} (h : ofWeek? y week day = some n) :
    daysBefore y - 3 ≤ n ∧ n ≤ daysBefore (y + 1) + 2 := by
  unfold ofWeek? at h
  split at h
  · rename_i hweek
    obtain rfl := Option.some.inj h
    unfold weeksInYear firstMonday Time.weekday at *
    dsimp only at *
    omega
  · cases h

/-- **Days of the calendar**, and of the weeks that it ends in. -/
def Dated (n : Int) : Prop := daysBefore minYear - 3 ≤ n ∧ n ≤ daysBefore (maxYear + 1) + 2

theorem dated_of_year {n : Int} (h : minYear ≤ yearOf n ∧ yearOf n ≤ maxYear) : Dated n := by
  obtain ⟨hfrom, hto⟩ := yearOf_spec n
  have hfirst := daysBefore_mono h.1
  have hlast := daysBefore_mono (show yearOf n + 1 ≤ maxYear + 1 by omega)
  exact ⟨by omega, by omega⟩

/-- A date in the ISO notation. -/
theorem dated_of_isoDate? {cs rest : List Char} {n : Int} {form : Form}
    (h : isoDate? cs = some (some n, form, rest)) : Dated n := by
  unfold isoDate? at h
  obtain ⟨⟨year, cs⟩, -, h⟩ := Option.bind_eq_some_iff.1 h
  dsimp only at h
  have hyear {m : Option Int} (hm : (if minYear ≤ year ∧ year ≤ maxYear then m else none) = some n) :
      (minYear ≤ year ∧ year ≤ maxYear) ∧ m = some n := Option.ite_none_right_eq_some.1 hm
  split at h
  · obtain ⟨hrange, hday⟩ := hyear (Prod.mk.inj (Option.some.inj h)).1
    exact dated_of_year (by rw [yearOf_ofCivil? hday]; exact hrange)
  · split at h
    · obtain ⟨hrange, hday⟩ := hyear (Prod.mk.inj (Option.some.inj h)).1
      exact dated_of_year (by rw [yearOf_ofOrdinal? hday]; exact hrange)
    · obtain ⟨⟨⟨week, day⟩, rest'⟩, -, h⟩ := Option.bind_eq_some_iff.1 h
      obtain ⟨hrange, hday⟩ := hyear (Prod.mk.inj (Option.some.inj h)).1
      obtain ⟨hfrom, hto⟩ := ofWeek?_near hday
      have hfirst := daysBefore_mono hrange.1
      have hlast := daysBefore_mono (show year + 1 ≤ maxYear + 1 by omega)
      exact ⟨by omega, by omega⟩

/-! ## §3. Offsets. -/

theorem natAbs_signed (negative : Bool) (n : Nat) : (signed negative n).natAbs = n := by
  unfold signed
  cases negative <;> simp

theorem recordOffset?_le {cs rest : List Char} {offset : Int}
    (h : recordOffset? cs = some (offset, rest)) : offset.natAbs ≤ 93540 := by
  unfold recordOffset? at h
  split at h
  · obtain ⟨rfl, -⟩ := Prod.mk.inj (Option.some.inj h)
    decide
  · obtain ⟨rfl, -⟩ := Prod.mk.inj (Option.some.inj h)
    decide
  · obtain ⟨⟨negative, _⟩, -, h⟩ := Option.bind_eq_some_iff.1 h
    obtain ⟨⟨hours, _⟩, -, h⟩ := Option.bind_eq_some_iff.1 h
    obtain ⟨_, -, h⟩ := Option.bind_eq_some_iff.1 h
    obtain ⟨⟨minutes, _⟩, -, h⟩ := Option.bind_eq_some_iff.1 h
    obtain ⟨hrange, h⟩ := Option.ite_none_right_eq_some.1 h
    obtain ⟨rfl, -⟩ := Prod.mk.inj (Option.some.inj h)
    rw [natAbs_signed]
    omega

theorem isoOffset?_le {form : Form} {cs rest : List Char} {offset : Int}
    (h : isoOffset? form cs = some (offset, rest)) : offset.natAbs ≤ 86340 := by
  unfold isoOffset? at h
  split at h
  · obtain ⟨rfl, -⟩ := Prod.mk.inj (Option.some.inj h)
    decide
  · obtain ⟨⟨negative, _⟩, -, h⟩ := Option.bind_eq_some_iff.1 h
    obtain ⟨⟨hours, _⟩, -, h⟩ := Option.bind_eq_some_iff.1 h
    obtain ⟨hhours, h⟩ := Option.ite_none_left_eq_some.1 h
    dsimp only at h
    split at h
    · obtain ⟨rfl, -⟩ := Prod.mk.inj (Option.some.inj h)
      rw [natAbs_signed]
      omega
    · obtain ⟨hminutes, h⟩ := Option.ite_none_left_eq_some.1 h
      obtain ⟨rfl, -⟩ := Prod.mk.inj (Option.some.inj h)
      rw [natAbs_signed]
      omega

/-! ## §4. What is read. -/

/-- **What holds of a moment that a text writes.** -/
structure Instant.Written (t : Instant) : Prop where
  proper : t.nanos < 1000000000
  offset : t.offset.natAbs ≤ 93540
  dated : Dated t.localDay.1

/-- A local day and a second of it are shown as they were. -/
theorem localDay_ofLocal {day second : Int} (h : 0 ≤ second ∧ second < 86400) (nanos : Nat)
    (offset : Int) : (Instant.ofLocal day second nanos offset).localDay = (day, second) := by
  show ((day * 86400 + second - offset + offset) / 86400,
    (day * 86400 + second - offset + offset) % 86400) = _
  rw [Int.sub_add_cancel]
  exact Prod.ext (by show _ / _ = day; omega) (by show _ % _ = second; omega)

theorem written_ofLocal {day second offset : Int} {nanos : Nat} (hday : Dated day)
    (hsecond : 0 ≤ second ∧ second < 86400) (hnanos : nanos < 1000000000)
    (hoffset : offset.natAbs ≤ 93540) : (Instant.ofLocal day second nanos offset).Written where
  proper := hnanos
  offset := hoffset
  dated := by
    rw [localDay_ofLocal hsecond]
    exact hday

theorem recordFraction?_lt {cs rest : List Char} {nanos : Nat}
    (h : recordFraction? cs = some (nanos, rest)) : nanos < 1000000000 := by
  unfold recordFraction? at h
  split at h
  · obtain ⟨-, h⟩ := Option.ite_none_left_eq_some.1 h
    obtain ⟨rfl, -⟩ := Prod.mk.inj (Option.some.inj h)
    exact nanosOf_lt _
  · obtain ⟨rfl, -⟩ := Prod.mk.inj (Option.some.inj h)
    decide

/-- The time of day and what comes after it, of a day in a year of four digits. -/
theorem written_of_clockAfter? {year month day : Nat} {cs : List Char} {t : Instant}
    (hfour : year < 10 ^ 4) (h : clockAfter? year month day cs = some t) : t.Written := by
  unfold clockAfter? at h
  obtain ⟨⟨hour, _⟩, -, h⟩ := Option.bind_eq_some_iff.1 h
  obtain ⟨_, -, h⟩ := Option.bind_eq_some_iff.1 h
  obtain ⟨⟨minute, _⟩, -, h⟩ := Option.bind_eq_some_iff.1 h
  obtain ⟨_, -, h⟩ := Option.bind_eq_some_iff.1 h
  obtain ⟨⟨second, _⟩, -, h⟩ := Option.bind_eq_some_iff.1 h
  obtain ⟨⟨nanos, _⟩, hnanos, h⟩ := Option.bind_eq_some_iff.1 h
  obtain ⟨⟨offset, _⟩, hoffset, h⟩ := Option.bind_eq_some_iff.1 h
  obtain ⟨-, h⟩ := Option.ite_none_left_eq_some.1 h
  obtain ⟨number, hnumber, h⟩ := Option.bind_eq_some_iff.1 h
  obtain ⟨hclock, h⟩ := Option.ite_none_left_eq_some.1 h
  simp only [Bool.not_eq_true', Bool.not_eq_false, Bool.and_eq_true, decide_eq_true_eq] at hclock
  have hdated : Dated number := by
    refine dated_of_year ?_
    rw [yearOf_ofCivil? hnumber]
    exact ⟨by unfold minYear; omega, by unfold maxYear; omega⟩
  have hlimit := recordOffset?_le hoffset
  dsimp only at h
  split at h
  · obtain ⟨-, h⟩ := Option.ite_none_right_eq_some.1 h
    obtain rfl := Option.some.inj h
    exact written_ofLocal hdated (by omega) (by decide) hlimit
  · obtain rfl := Option.some.inj h
    exact written_ofLocal hdated (by omega) (recordFraction?_lt hnanos) hlimit

theorem written_of_readRecord? {cs : List Char} {t : Instant} (h : readRecord? cs = some t) :
    t.Written := by
  unfold readRecord? at h
  obtain ⟨⟨year, _⟩, hyear, h⟩ := Option.bind_eq_some_iff.1 h
  obtain ⟨_, -, h⟩ := Option.bind_eq_some_iff.1 h
  obtain ⟨⟨month, _⟩, -, h⟩ := Option.bind_eq_some_iff.1 h
  obtain ⟨_, -, h⟩ := Option.bind_eq_some_iff.1 h
  obtain ⟨⟨day, _⟩, -, h⟩ := Option.bind_eq_some_iff.1 h
  dsimp only at h
  split at h
  · split at h
    · exact written_of_clockAfter? (digitsOf_lt hyear) h
    · cases h
  · cases h

theorem written_of_readIso? {cs : List Char} {t : Instant} (h : readIso? cs = some t) :
    t.Written := by
  unfold readIso? at h
  obtain ⟨⟨day, form, _⟩, hdate, h⟩ := Option.bind_eq_some_iff.1 h
  obtain ⟨_, -, h⟩ := Option.bind_eq_some_iff.1 h
  obtain ⟨⟨time, rest⟩, -, h⟩ := Option.bind_eq_some_iff.1 h
  have hend {offset : Int} (hlimit : offset.natAbs ≤ 86340)
      (h : (day.bind fun number => if time.exists = true then
        some (Instant.ofLocal number (time.hour * 3600 + time.minute * 60 + time.second)
          time.nanos offset) else none) = some t) : t.Written := by
    obtain ⟨number, rfl, h⟩ := Option.bind_eq_some_iff.1 h
    obtain ⟨hclock, h⟩ := Option.ite_none_right_eq_some.1 h
    obtain rfl := Option.some.inj h
    unfold ClockTime.exists at hclock
    simp only [Bool.and_eq_true, decide_eq_true_eq] at hclock
    exact written_ofLocal (dated_of_isoDate? hdate) (by omega) (by omega) (by omega)
  dsimp only at h
  split at h
  · exact hend (show Int.natAbs 0 ≤ 86340 by decide) h
  · split at h
    · rename_i hoffset
      exact hend (isoOffset?_le hoffset) h
    · cases h

/-- **What is read** has a fraction of less than a second, a short offset and a date. -/
theorem written_of_read {s : String} {t : Instant} (h : Instant.read s = .ok t) : t.Written := by
  unfold Instant.read at h
  dsimp only at h
  split at h
  · rename_i hread
    obtain rfl := Except.ok.inj h
    exact written_of_readRecord? hread
  · split at h
    · rename_i hread
      obtain rfl := Except.ok.inj h
      exact written_of_readIso? hread
    · cases h

/-! ## §5. Texts that leave the calendar. -/

/-- **Whether a text writes a moment that UTC dates outside the calendar.** -/
def Overhangs (s : String) : Prop :=
  ∃ t, Instant.read s = .ok t ∧ ¬(minYear ≤ utcYear t.seconds ∧ utcYear t.seconds ≤ maxYear)

/-- **The texts that leave the calendar** are those. -/
theorem normalise_eq_outOfCalendar_iff (s : String) :
    normalise s = .error .outOfCalendar ↔ Overhangs s := by
  unfold normalise Overhangs
  cases hread : Instant.read s with
  | error fault =>
      have hunreadable : fault = .unreadable := by
        unfold Instant.read at hread
        dsimp only at hread
        split at hread
        · cases hread
        · split at hread
          · cases hread
          · exact (Except.error.inj hread).symm
      rw [hunreadable]
      exact ⟨fun h => (nomatch h), fun ⟨_, h, _⟩ => (nomatch h)⟩
  | ok t =>
      have hmin : minYear = -9999 := rfl
      have hmax : maxYear = 9999 := rfl
      show t.wireText = _ ↔ _
      rw [wireText_eq]
      constructor
      · intro h
        refine ⟨t, rfl, ?_⟩
        split at h
        · cases h
        · split at h
          · cases h
          · assumption
      · rintro ⟨u, hu, hyear⟩
        obtain rfl := Except.ok.inj hu
        rw [if_neg (by omega), if_neg hyear]

/-- The year in UTC is at most one from the local year. -/
theorem utcYear_near {t : Instant} (h : t.offset.natAbs ≤ 93540) :
    yearOf t.localDay.1 - 1 ≤ utcYear t.seconds ∧ utcYear t.seconds ≤ yearOf t.localDay.1 + 1 := by
  have hlocal : t.localDay.1 = (t.seconds + t.offset) / 86400 := rfl
  obtain ⟨hfrom, hto⟩ := yearOf_spec t.localDay.1
  obtain ⟨hstart, hend⟩ := yearOf_spec (t.seconds / 86400)
  have hlong (y : Int) : daysBefore y + 365 ≤ daysBefore (y + 1) := by
    rw [daysBefore_succ]
    unfold daysInYear
    split <;> omega
  unfold utcYear
  constructor
  · by_contra hyear
    have hbefore := daysBefore_mono (show yearOf (t.seconds / 86400) + 1
      ≤ yearOf t.localDay.1 - 1 by omega)
    have hgap := hlong (yearOf t.localDay.1 - 1)
    rw [Int.sub_add_cancel] at hgap
    omega
  · by_contra hyear
    have hafter := daysBefore_mono (show yearOf t.localDay.1 + 1 + 1
      ≤ yearOf (t.seconds / 86400) by omega)
    have hgap := hlong (yearOf t.localDay.1 + 1)
    omega

/-- **No text of an inner year leaves the calendar.** -/
theorem not_overhangs_of_inner {s : String} {t : Instant} (h : Instant.read s = .ok t)
    (hinner : minYear < yearOf t.localDay.1 ∧ yearOf t.localDay.1 < maxYear) : ¬Overhangs s := by
  rintro ⟨u, hu, hyear⟩
  obtain rfl := Except.ok.inj (h.symm.trans hu)
  have hnear := utcYear_near (written_of_read h).offset
  omega

end Federation.Time
