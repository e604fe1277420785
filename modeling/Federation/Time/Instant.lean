/-
  Federation.Time.Instant
  ───────────────────────
  **INSTANTS.**

  An instant is a number of seconds since the start of 1970 in UTC with a
  fraction of a second, shown in some offset from UTC.  Two texts of it
  matter: the record text, in its own offset and with its fraction, which
  dates an entry of the capability file; and the wire text, in UTC and whole
  seconds, which is what aggregates are sent.
-/
import Federation.Time.Calendar

namespace Federation.Time

/-! ## §1. Instants. -/

/-- A moment, and the offset from UTC that it is shown in. -/
structure Instant where
  /-- Whole seconds since the start of 1970, rounded down. -/
  seconds : Int
  /-- The rest, in billionths of a second. -/
  nanos : Nat
  /-- Offset of the local time from UTC, in seconds. -/
  offset : Int
  deriving DecidableEq, Repr, Inhabited

/-- A length of time in whole seconds and billionths. -/
structure Span where
  seconds : Nat
  nanos : Nat
  deriving DecidableEq, Repr

namespace Instant

/-- The start of 1970. -/
def epoch : Instant := ⟨0, 0, 0⟩

/-- Billionths of a second since the start of 1970. -/
def total (t : Instant) : Int := t.seconds * 1000000000 + t.nanos

/-- Whether at most `span` has passed from `earlier` to `later`; a moment
that lies ahead has not passed. -/
def within (earlier later : Instant) (span : Span) : Bool :=
  later.total - earlier.total ≤ (span.seconds : Int) * 1000000000 + span.nanos

/-- The day number and the second of the day in the instant's own offset. -/
def localDay (t : Instant) : Int × Int :=
  let s := t.seconds + t.offset
  (s / 86400, s % 86400)

/-- The instant of a local day and second of the day. -/
def ofLocal (day second : Int) (nanos : Nat) (offset : Int) : Instant :=
  ⟨day * 86400 + second - offset, nanos, offset⟩

/-- The same moment shown in UTC. -/
def utc (t : Instant) : Instant := { t with offset := 0 }

/-- The moment without its fraction. -/
def whole (t : Instant) : Instant := { t with nanos := 0 }

/-! ## §2. Text. -/

/-- A number in at least `width` digits. -/
def padded (width n : Nat) : String :=
  let ds := toString n
  String.ofList (List.replicate (width - ds.length) '0') ++ ds

/-- Date and time of day of a local day and second, down to the second. -/
def clockText (day second : Int) : String :=
  let d := Date.ofDay day
  let s := second.toNat
  padded 4 d.year.toNat ++ "-" ++ padded 2 d.month ++ "-" ++ padded 2 d.day ++ "T"
    ++ padded 2 (s / 3600) ++ ":" ++ padded 2 (s / 60 % 60) ++ ":" ++ padded 2 (s % 60)

/-- A fraction of a second without the zeros at its end; nothing for none. -/
def fractionText (nanos : Nat) : String :=
  if nanos = 0 then ""
  else
    let ds := (padded 9 nanos).toList
    "." ++ String.ofList (ds.reverse.dropWhile (· == '0')).reverse

/-- An offset in hours and minutes; `Z` for none. -/
def offsetText (offset : Int) : String :=
  if offset = 0 then "Z"
  else
    let m := offset.natAbs / 60
    (if offset < 0 then "-" else "+") ++ padded 2 (m / 60) ++ ":" ++ padded 2 (m % 60)

/-- The record text: local time with fraction and offset.  It exists for the
years 0 to 9999 and for offsets of whole minutes below a day. -/
def recordText? (t : Instant) : Option String :=
  let (day, second) := t.localDay
  let year := yearOf day
  if 0 ≤ year ∧ year ≤ 9999 ∧ t.offset.natAbs < 86400 ∧ t.offset % 60 = 0 then
    some (clockText day second ++ fractionText t.nanos ++ offsetText t.offset)
  else none

end Instant

/-- Why a text is no time, or an instant has no wire text. -/
inductive TimeFault where
  /-- The text is in none of the accepted notations. -/
  | unreadable
  /-- In UTC the year is negative or has more than four digits. -/
  | yearOutOfText
  /-- In UTC the moment lies outside the calendar altogether.  It has no date
  there, and whoever needs one comes to an end without an answer. -/
  | outOfCalendar
  deriving DecidableEq, Repr

/-- What is reported of a fault.  The words are not fixed; `<reason>` stands
for them. -/
def TimeFault.message (_ : TimeFault) : String := "<reason>"

/-- The wire text: UTC, whole seconds. -/
def Instant.wireText (t : Instant) : Except TimeFault String :=
  let u := t.utc.whole
  if !inCalendar u.localDay.1 then .error .outOfCalendar
  else match u.recordText? with
    | some s => .ok s
    | none => .error .yearOutOfText

end Federation.Time
