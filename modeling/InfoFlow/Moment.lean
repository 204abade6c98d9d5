/-!
# Dates and times

A configuration file may hold dates, times of day, and both together with or without an offset
from universal time. They are only ever shown, in the form that names their kind and parts.
-/

namespace InfoFlow

/-- A day of the calendar. -/
structure Date where
  year : Nat
  month : Nat
  day : Nat
deriving DecidableEq, Repr

/-- A time of day. -/
structure TimeOfDay where
  hour : Nat
  minute : Nat
  second : Nat
  microsecond : Nat
deriving DecidableEq, Repr

/-- A date, a time of day, or both, then with the offset from universal time in minutes if one is
given. -/
inductive Moment where
  | date (d : Date)
  | time (t : TimeOfDay)
  | dateTime (d : Date) (t : TimeOfDay) (offset : Option Int)
deriving DecidableEq, Repr

namespace Date

/-- Every fourth year is a leap year, but of the full centuries only every fourth. -/
def isLeapYear (year : Nat) : Bool := year % 4 = 0 && (year % 100 ≠ 0 || year % 400 = 0)

/-- The number of days of a month. -/
def daysIn (year month : Nat) : Nat :=
  match month with
  | 2 => if isLeapYear year then 29 else 28
  | 4 | 6 | 9 | 11 => 30
  | _ => 31

/-- Whether the calendar, which starts with the year 1, has the day. -/
def isValid (d : Date) : Bool :=
  1 ≤ d.year && 1 ≤ d.month && d.month ≤ 12 && 1 ≤ d.day && d.day ≤ daysIn d.year d.month

/-- The parts, in order. -/
def parts (d : Date) : List Nat := [d.year, d.month, d.day]

end Date

/-- The parts, in order: the seconds only if they or their fraction are not zero, and the fraction
only if it is not. -/
def TimeOfDay.parts (t : TimeOfDay) : List Nat :=
  [t.hour, t.minute] ++
    (if t.microsecond ≠ 0 then [t.second, t.microsecond]
      else if t.second ≠ 0 then [t.second] else [])

namespace Moment

/-- A day has this many seconds. -/
def secondsPerDay : Int := 86400

/-- The form that shows an offset: no part for universal time itself, and a negative one as a day
less and the seconds from there. -/
def showOffset (minutes : Int) : String :=
  let seconds := minutes * 60
  if seconds = 0 then "datetime.timezone.utc"
  else
    let days := if seconds < 0 then "days=-1, " else ""
    let rest := if seconds < 0 then secondsPerDay + seconds else seconds
    "datetime.timezone(datetime.timedelta(" ++ days ++ "seconds=" ++ toString rest ++ "))"

/-- The kind, and between parentheses the parts. -/
def showParts (kind : String) (parts : List String) : String :=
  "datetime." ++ kind ++ "(" ++ String.intercalate ", " parts ++ ")"

/-- The form in which a moment is shown. -/
def shown : Moment → String
  | .date d => showParts "date" (d.parts.map toString)
  | .time t => showParts "time" (t.parts.map toString)
  | .dateTime d t offset =>
    showParts "datetime" ((d.parts ++ t.parts).map toString ++
      (offset.map fun o => "tzinfo=" ++ showOffset o).toList)

end Moment

end InfoFlow
