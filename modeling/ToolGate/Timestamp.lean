/-
Moments in time, to the millisecond.

* `Timestamp` — milliseconds since the start of 1970, UTC.
* `Timestamp.date` — the day of the proleptic Gregorian calendar.
* `Timestamp.render` — date and time of day, with a fraction only if there is one. Years that
  need more or fewer than four digits, or are before year 0, carry a sign.
-/
import ToolGate.Decimal.Shortest

namespace ToolGate

/-- A moment: milliseconds since the start of 1970, UTC. -/
structure Timestamp where
  millis : Int
  deriving Repr, DecidableEq, Inhabited

/-- A day of the calendar. -/
structure CalendarDay where
  year : Int
  month : Nat
  day : Nat
  deriving Repr, DecidableEq

namespace Timestamp

/-- The moment so many milliseconds later. -/
def plus (t : Timestamp) (millis : Int) : Timestamp := ⟨t.millis + millis⟩

/-- The milliseconds from one moment to another. -/
def since (later earlier : Timestamp) : Int := later.millis - earlier.millis

/-- The milliseconds of a day. -/
def millisPerDay : Int := 86400000

/-- The calendar day that is so many days after the start of 1970. Years are counted from the
first of March, so that the day that some years lack is their last, in cycles of 400 years. -/
def dayOf (days : Int) : CalendarDay :=
  let shifted := days + 719468
  let era := shifted / 146097
  let dayOfEra := (shifted % 146097).toNat
  let yearOfEra := (dayOfEra - dayOfEra / 1460 + dayOfEra / 36524 - dayOfEra / 146096) / 365
  let dayOfYear := dayOfEra - (365 * yearOfEra + yearOfEra / 4 - yearOfEra / 100)
  let shiftedMonth := (5 * dayOfYear + 2) / 153
  let day := dayOfYear - (153 * shiftedMonth + 2) / 5 + 1
  let month := if shiftedMonth < 10 then shiftedMonth + 3 else shiftedMonth - 9
  let year := (yearOfEra : Int) + era * 400 + (if month ≤ 2 then 1 else 0)
  ⟨year, month, day⟩

/-- The day of a moment. -/
def date (t : Timestamp) : CalendarDay := dayOf (t.millis / millisPerDay)

/-- A number in at least so many digits. -/
def padded (width n : Nat) : List Char :=
  let ds := Decimal.digitsOf n
  List.replicate (width - ds.length) '0' ++ ds

/-- A year: four digits, or a sign and at least four digits. -/
def renderYear (year : Int) : List Char :=
  if 0 ≤ year ∧ year ≤ 9999 then padded 4 year.natAbs
  else (if year < 0 then '-' else '+') :: padded 4 year.natAbs

/-- A day as year, month and day with hyphens between them. -/
def renderDate (d : CalendarDay) : List Char :=
  renderYear d.year ++ '-' :: (padded 2 d.month ++ '-' :: padded 2 d.day)

/-- The written form of a moment. -/
def toChars (t : Timestamp) : List Char :=
  let rest := (t.millis % millisPerDay).toNat
  let fraction := rest % 1000
  renderDate t.date ++ 'T' :: (padded 2 (rest / 3600000) ++ ':' ::
    (padded 2 (rest / 60000 % 60) ++ ':' :: (padded 2 (rest / 1000 % 60) ++
      (if fraction = 0 then [] else '.' :: padded 3 fraction) ++ ['Z'])))

/-- The written form of a moment, as a string. -/
def render (t : Timestamp) : String := String.ofList t.toChars

end Timestamp

end ToolGate
