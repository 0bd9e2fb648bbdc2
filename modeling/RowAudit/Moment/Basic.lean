import RowAudit.Number.Text

/-!
# Dates and moments

A `Date` is a day of the proleptic Gregorian calendar, a `Moment` a date with a time of day to the
nanosecond. A moment inside a leap second has second 59 and a billion nanoseconds or more. Both
types carry their validity, and moments are ordered by time.
-/

namespace RowAudit

/-- Leap years of the Gregorian calendar. -/
def isLeapYear (year : Int) : Bool := year % 4 == 0 && (year % 100 != 0 || year % 400 == 0)

/-- The number of days of a month; zero for a number that is no month. -/
def daysInMonth (year : Int) (month : Nat) : Nat :=
  match month with
  | 1 | 3 | 5 | 7 | 8 | 10 | 12 => 31
  | 4 | 6 | 9 | 11 => 30
  | 2 => if isLeapYear year then 29 else 28
  | _ => 0

/-- The first year that dates reach back to. -/
def firstYear : Int := -262143

/-- The last year that dates reach. -/
def lastYear : Int := 262142

/-- A day of the calendar. -/
structure Date where
  year : Int
  month : Nat
  day : Nat
  year_mem : firstYear ≤ year ∧ year ≤ lastYear
  day_mem : 1 ≤ day ∧ day ≤ daysInMonth year month
  deriving DecidableEq

namespace Date

/-- The date with given parts, if there is one. -/
def of? (year : Int) (month day : Nat) : Option Date :=
  if hy : firstYear ≤ year ∧ year ≤ lastYear then
    if hd : 1 ≤ day ∧ day ≤ daysInMonth year month then some ⟨year, month, day, hy, hd⟩ else none
  else none

/-- The order of days. -/
def order (a b : Date) : Ordering :=
  (compare a.year b.year).then ((compare a.month b.month).then (compare a.day b.day))

/-- The date a number of days after the first of January 1970. Years are counted from March, so
that a leap day is the last day of its year. -/
def ofDayNumber? (days : Int) : Option Date :=
  let shifted := days + 719468
  let era := Int.fdiv shifted 146097
  let dayOfEra := shifted - era * 146097
  let yearOfEra := (dayOfEra - dayOfEra / 1460 + dayOfEra / 36524 - dayOfEra / 146096) / 365
  let dayOfYear := dayOfEra - (365 * yearOfEra + yearOfEra / 4 - yearOfEra / 100)
  let monthFromMarch := (5 * dayOfYear + 2) / 153
  let day := dayOfYear - (153 * monthFromMarch + 2) / 5 + 1
  let month := if monthFromMarch < 10 then monthFromMarch + 3 else monthFromMarch - 9
  let year := yearOfEra + era * 400 + (if month ≤ 2 then 1 else 0)
  of? year month.toNat day.toNat

end Date

/-- A date with a time of day. -/
structure Moment where
  date : Date
  hour : Nat
  minute : Nat
  second : Nat
  nano : Nat
  hour_lt : hour < 24
  minute_lt : minute < 60
  second_lt : second < 60
  nano_lt : nano < 1000000000 ∨ (second = 59 ∧ nano < 2000000000)
  deriving DecidableEq

namespace Moment

/-- The moment with given parts, if there is one. -/
def of? (date : Date) (hour minute second nano : Nat) : Option Moment :=
  if hh : hour < 24 then
    if hm : minute < 60 then
      if hs : second < 60 then
        if hn : nano < 1000000000 ∨ (second = 59 ∧ nano < 2000000000) then
          some ⟨date, hour, minute, second, nano, hh, hm, hs, hn⟩
        else none
      else none
    else none
  else none

/-- The start of a day. -/
def startOfDay (date : Date) : Moment :=
  ⟨date, 0, 0, 0, 0, by decide, by decide, by decide, .inl (by decide)⟩

/-- The seconds since the start of the day. -/
def secondOfDay (m : Moment) : Nat := m.hour * 3600 + m.minute * 60 + m.second

/-- The order of time. -/
def order (a b : Moment) : Ordering :=
  (a.date.order b.date).then
    ((compare a.secondOfDay b.secondOfDay).then (compare a.nano b.nano))

/-- The moment a number of milliseconds after the start of 1970. -/
def ofMilliseconds? (ms : Int) : Option Moment :=
  let seconds := Int.fdiv ms 1000
  let milli := (ms - seconds * 1000).toNat
  let days := Int.fdiv seconds 86400
  let inDay := (seconds - days * 86400).toNat
  (Date.ofDayNumber? days).bind fun date =>
    of? date (inDay / 3600) (inDay / 60 % 60) (inDay % 60) (milli * 1000000)

end Moment

/-! ## Text forms -/

/-- A number with zeros in front up to a width. -/
def paddedChars (width n : Nat) : List Char :=
  let ds := Number.digitChars n
  List.replicate (width - ds.length) '0' ++ ds

/-- A year in four digits; one outside the four-digit years has a sign. -/
def yearChars (year : Int) : List Char :=
  if 0 ≤ year ∧ year ≤ 9999 then paddedChars 4 year.toNat
  else (if year < 0 then '-' else '+') :: paddedChars 4 year.natAbs

/-- Year, month and day with dashes between them. -/
def Date.chars (d : Date) : List Char :=
  yearChars d.year ++ '-' :: paddedChars 2 d.month ++ '-' :: paddedChars 2 d.day

/-- The second as it is written: 60 inside a leap second. -/
def Moment.shownSecond (m : Moment) : Nat := m.second + m.nano / 1000000000

/-- The text of a moment: its date, and unless it is the start of the day, the time to the second.
Fractions of a second are not written. -/
def Moment.chars (m : Moment) : List Char :=
  if m.secondOfDay = 0 ∧ m.nano = 0 then m.date.chars
  else
    m.date.chars ++ 'T' :: paddedChars 2 m.hour ++ ':' :: paddedChars 2 m.minute
      ++ ':' :: paddedChars 2 m.shownSecond

/-- The text of a moment. -/
def Moment.text (m : Moment) : String := String.ofList m.chars

end RowAudit
