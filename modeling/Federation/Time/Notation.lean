/-
  Federation.Time.Notation
  ────────────────────────
  **READING TIMES.**

  Two notations are accepted.  The record notation is RFC 3339: full date,
  any one ASCII character, full time with an optional decimal fraction, and
  `Z` or an offset of hours and minutes; its second 60 is the last moment of
  a month in UTC, read as the last billionth of the second before.  The ISO
  8601 notation has a basic form without separators and an extended form
  with them, three ways to name the date, a `T`, a time whose last part may
  have a decimal fraction and may lack seconds or, in the basic form,
  minutes, and an offset that may be missing.

  In the ISO notation a fraction is read in double precision, digit by
  digit, so that what it stands for is rounded as such arithmetic rounds.
  Main entry: `Instant.read`, which also takes a blank in place of the `T`
  and UTC where no offset is given.
-/
import Federation.Number.Binary64
import Federation.Text.Blank
import Federation.Text.Split
import Federation.Time.Instant

namespace Federation.Time

open Number (Binary64)
open Text (digit? decimal?)

/-! ## §1. Pieces. -/

/-- Exactly `n` digits and what follows them. -/
def digitsOf (n : Nat) (cs : List Char) : Option (Nat × List Char) :=
  let front := cs.take n
  if front.length = n then (decimal? front).map (·, cs.drop n) else none

/-- The rest after one given character. -/
def after (c : Char) : List Char → Option (List Char)
  | x :: rest => if x = c then some rest else none
  | [] => none

/-- A sign, true for minus. -/
def signOf : List Char → Option (Bool × List Char)
  | '+' :: rest => some (false, rest)
  | '-' :: rest => some (true, rest)
  | _ => none

/-- Billionths of a second from the digits after the point; digits beyond
the ninth count for nothing. -/
def nanosOf (ds : List Char) : Nat :=
  (ds.take 9 ++ List.replicate (9 - ds.length) '0').foldl
    (fun acc c => acc * 10 + (digit? c).getD 0) 0

def isDigit (c : Char) : Bool := (digit? c).isSome

/-- A signed number. -/
def signed (negative : Bool) (n : Nat) : Int := if negative then -(n : Int) else n

/-! ## §2. The record notation. -/

/-- Hours and minutes of an offset in the record notation, in seconds. -/
def recordOffset? (cs : List Char) : Option (Int × List Char) :=
  match cs with
  | 'Z' :: rest => some (0, rest)
  | 'z' :: rest => some (0, rest)
  | _ => do
      let (negative, cs) ← signOf cs
      let (hours, cs) ← digitsOf 2 cs
      let cs ← after ':' cs
      let (minutes, rest) ← digitsOf 2 cs
      if hours ≤ 25 ∧ minutes ≤ 59 then
        some (signed negative (hours * 3600 + minutes * 60), rest)
      else none

/-- The fraction of a second, when a point follows. -/
def recordFraction? (cs : List Char) : Option (Nat × List Char) :=
  match cs with
  | '.' :: rest =>
      let ds := rest.takeWhile isDigit
      if ds.isEmpty then none else some (nanosOf ds, rest.dropWhile isDigit)
  | _ => some (0, cs)

/-- Whether the instant is the last second of a month in UTC. -/
def endsMonth (t : Instant) : Bool :=
  let (day, second) := t.utc.localDay
  let d := Date.ofDay day
  second == 86399 && d.day == daysInMonth d.year d.month

/-- **The record notation.** -/
def readRecord? (cs : List Char) : Option Instant := do
  let (year, cs) ← digitsOf 4 cs
  let cs ← after '-' cs
  let (month, cs) ← digitsOf 2 cs
  let cs ← after '-' cs
  let (day, cs) ← digitsOf 2 cs
  let cs ← match cs with
    | c :: rest => if c.toNat < 128 then some rest else none
    | [] => none
  let (hour, cs) ← digitsOf 2 cs
  let cs ← after ':' cs
  let (minute, cs) ← digitsOf 2 cs
  let cs ← after ':' cs
  let (second, cs) ← digitsOf 2 cs
  let (nanos, cs) ← recordFraction? cs
  let (offset, cs) ← recordOffset? cs
  if !cs.isEmpty then none
  else
    let number ← ofCivil? year month day
    if !(hour ≤ 23 && minute ≤ 59 && second ≤ 60) then none
    else if second = 60 then
      -- A leap second has no number of its own.
      let t := Instant.ofLocal number (hour * 3600 + minute * 60 + 59) 999999999 offset
      if endsMonth t then some t else none
    else some (Instant.ofLocal number (hour * 3600 + minute * 60 + second) nanos offset)

/-! ## §3. The ISO notation: dates. -/

/-- Which form a text has turned out to have. -/
inductive Form where
  | basic
  | extended
  deriving DecidableEq, Repr

/-- The year: four digits, or a sign and six. -/
def isoYear? (cs : List Char) : Option (Int × List Char) :=
  match signOf cs with
  | some (negative, cs) => (digitsOf 6 cs).map fun (n, rest) => (signed negative n, rest)
  | none => (digitsOf 4 cs).map fun (n, rest) => (n, rest)

/-- The separator of the form, when it has one. -/
def separator (form : Form) (c : Char) (cs : List Char) : Option (List Char) :=
  match form with
  | .basic => some cs
  | .extended => after c cs

/-- Month and day. -/
def isoMonthDay? (form : Form) (cs : List Char) : Option ((Nat × Nat) × List Char) := do
  let (month, cs) ← digitsOf 2 cs
  if !(1 ≤ month && month ≤ 12) then none
  else
    let cs ← separator form '-' cs
    let (day, cs) ← digitsOf 2 cs
    if day = 0 then none else some ((month, day), cs)

/-- Day of the year. -/
def isoOrdinal? (cs : List Char) : Option (Nat × List Char) :=
  (digitsOf 3 cs).filter fun (n, _) => n ≠ 0

/-- Week and weekday. -/
def isoWeek? (form : Form) (cs : List Char) : Option ((Nat × Nat) × List Char) := do
  let cs ← after 'W' cs
  let (week, cs) ← digitsOf 2 cs
  let cs ← separator form '-' cs
  let (day, cs) ← digitsOf 1 cs
  if week = 0 ∨ day = 0 ∨ 7 < day then none else some ((week, day), cs)

/-- A date in one of the three ways: whether there is such a day is for the
caller, the notation alone decides which way it is. -/
def isoDate? (cs : List Char) : Option (Option Int × Form × List Char) := do
  let (year, cs) ← isoYear? cs
  let (form, cs) := match after '-' cs with
    | some rest => (Form.extended, rest)
    | none => (Form.basic, cs)
  let inRange := minYear ≤ year ∧ year ≤ maxYear
  match isoMonthDay? form cs with
  | some ((month, day), rest) =>
      some (if inRange then ofCivil? year month day else none, form, rest)
  | none =>
      match isoOrdinal? cs with
      | some (ordinal, rest) =>
          some (if inRange then ofOrdinal? year ordinal else none, form, rest)
      | none => do
          let ((week, day), rest) ← isoWeek? form cs
          some (if inRange then ofWeek? year week day else none, form, rest)

/-! ## §4. The ISO notation: times. -/

/-- The fraction `0.d₁d₂…` in double precision: each digit is divided by its
power of ten and added on. -/
def fractionOf (ds : List Char) : Option Binary64 :=
  go Binary64.zero 1 ds
where
  go (sum : Binary64) (place : Nat) : List Char → Option Binary64
    | [] => some sum
    | c :: cs =>
        match Binary64.tenTo? place with
        | none => some sum
        | some power => do
            let d ← Binary64.ofNat? ((digit? c).getD 0)
            let term ← d.div? power
            let sum ← sum.add? term
            go sum (place + 1) cs

/-- Two digits and, after a point or a comma, a fraction. -/
def isoPart? (cs : List Char) : Option ((Nat × Option Binary64) × List Char) := do
  let (n, rest) ← digitsOf 2 cs
  match rest with
  | c :: more =>
      if c = '.' ∨ c = ',' then
        let ds := more.takeWhile isDigit
        if ds.isEmpty then none
        else do
          let f ← fractionOf ds
          some ((n, some f), more.dropWhile isDigit)
      else some ((n, none), rest)
  | [] => some ((n, none), [])

/-- A time of day as its parts. -/
structure ClockTime where
  hour : Nat
  minute : Nat
  second : Nat
  nanos : Nat
  deriving DecidableEq, Repr

/-- Whether there is such a time of day. -/
def ClockTime.exists (t : ClockTime) : Bool :=
  t.hour ≤ 23 && t.minute ≤ 59 && t.second ≤ 59 && t.nanos ≤ 999999999

/-- The fraction times a number, in double precision. -/
def times? (f : Binary64) (n : Nat) : Option Binary64 := (Binary64.ofNat? n).bind f.mul?

/-- The remainder by a number. -/
def modulo? (f : Binary64) (n : Nat) : Option Binary64 := (Binary64.ofNat? n).bind f.mod?

/-- An hour with a fraction. -/
def ofHourFraction? (hour : Nat) (f : Binary64) : Option ClockTime := do
  let minutes ← times? f 60
  let seconds ← times? f 3600
  let second ← modulo? seconds 60
  let nanos ← times? seconds 1000000000
  let nanos ← modulo? nanos 1000000000
  some ⟨hour, minutes.floor, second.floor, nanos.floor⟩

/-- A minute with a fraction. -/
def ofMinuteFraction? (hour minute : Nat) (f : Binary64) : Option ClockTime := do
  let seconds ← times? f 60
  let nanos ← times? seconds 1000000000
  let nanos ← modulo? nanos 1000000000
  some ⟨hour, minute, seconds.floor, nanos.floor⟩

/-- Seconds, where they may follow. -/
def isoSeconds? (extended : Bool) (hour minute : Nat) (cs : List Char) :
    Option (ClockTime × List Char) :=
  match isoPart? cs with
  | some ((second, none), rest) => some (⟨hour, minute, second, 0⟩, rest)
  | some ((second, some f), rest) => do
      let nanos ← times? f 1000000000
      some (⟨hour, minute, second, nanos.round⟩, rest)
  | none => if extended then none else some (⟨hour, minute, 0, 0⟩, cs)

/-- A time of day after the `T`. -/
def isoTime? (form : Form) (cs : List Char) : Option (ClockTime × List Char) := do
  let ((hour, fraction), cs) ← isoPart? cs
  match fraction with
  | some f => (ofHourFraction? hour f).map (·, cs)
  | none =>
      let colon := after ':' cs
      -- In the extended form the colon may be left out here, but not below.
      if form = .basic ∧ colon.isSome then none
      else
        let cs := colon.getD cs
        match isoPart? cs with
        | some ((minute, some f), rest) => (ofMinuteFraction? hour minute f).map (·, rest)
        | none => if form = .extended then none else some (⟨hour, 0, 0, 0⟩, cs)
        | some ((minute, none), rest) =>
            match form with
            -- Without separators only what follows tells whether seconds do.
            | .basic => isoSeconds? false hour minute rest
            | .extended =>
                match after ':' rest with
                | none => some (⟨hour, minute, 0, 0⟩, rest)
                | some rest => isoSeconds? true hour minute rest

/-- An offset: `Z`, or signed hours with optional minutes. -/
def isoOffset? (form : Form) (cs : List Char) : Option (Int × List Char) :=
  match cs with
  | 'Z' :: rest => some (0, rest)
  | _ => do
      let (negative, cs) ← signOf cs
      let (hours, cs) ← digitsOf 2 cs
      if 23 < hours then none
      else
        let cs := match form with
          | .basic => cs
          | .extended => (after ':' cs).getD cs
        match digitsOf 2 cs with
        | none => some (signed negative (hours * 3600), cs)
        | some (minutes, rest) =>
            if 59 < minutes then none
            else some (signed negative (hours * 3600 + minutes * 60), rest)

/-- **The ISO notation**; UTC where no offset is given. -/
def readIso? (cs : List Char) : Option Instant := do
  let (day, form, cs) ← isoDate? cs
  let cs ← after 'T' cs
  let (time, cs) ← isoTime? form cs
  let offset ← if cs.isEmpty then some 0
    else match isoOffset? form cs with
      | some (offset, []) => some offset
      | _ => none
  let day ← day
  if time.exists then
    some (Instant.ofLocal day (time.hour * 3600 + time.minute * 60 + time.second)
      time.nanos offset)
  else none

/-! ## §5. Any accepted text. -/

/-- The first blank becomes a `T`. -/
def blankToT : List Char → List Char
  | [] => []
  | c :: cs => if c = ' ' then 'T' :: cs else c :: blankToT cs

/-- **The instant a text writes.** -/
def Instant.read (s : String) : Except TimeFault Instant :=
  let cs := Text.trimChars s.toList
  match readRecord? cs with
  | some t => .ok t
  | none =>
      match readIso? (blankToT cs) with
      | some t => .ok t
      | none => .error .unreadable

/-- The wire text of the instant a text writes. -/
def normalise (s : String) : Except TimeFault String :=
  Instant.read s >>= Instant.wireText

end Federation.Time
