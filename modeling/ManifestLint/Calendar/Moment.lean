/-!
# Dates and moments

A date is a day of the Gregorian calendar in the years 1 to 9999.  A moment adds the time of day to
the microsecond, and perhaps how many minutes its zone is ahead.

* `Date.make` and `Moment.make` refuse what is no day, time or zone.
* `Date.text` and `Moment.text` write them for readers, `shown` for messages.
-/

namespace ManifestLint

/-- Why there is no such date or moment. -/
inductive CalendarError where
  | year (found : Nat)
  | month
  | day
  | hour
  | minute
  | second
  | zone (minutes : Int)
  deriving DecidableEq, Repr

/-- A span of minutes as messages show it: whole days, which may be negative, and seconds. -/
def shownSpan (minutes : Int) : String :=
  let days := Int.fdiv minutes 1440
  let seconds := Int.fmod minutes 1440 * 60
  let parts := (if days = 0 then [] else [s!"days={days}"])
    ++ (if seconds = 0 then [] else [s!"seconds={seconds}"])
  let list := if parts.isEmpty then "0" else ", ".intercalate parts
  s!"datetime.timedelta({list})"

/-- The wording of an error. -/
def CalendarError.message : CalendarError → String
  | year found => s!"year {found} is out of range"
  | month => "month must be in 1..12"
  | day => "day is out of range for month"
  | hour => "hour must be in 0..23"
  | minute => "minute must be in 0..59"
  | second => "second must be in 0..59"
  | zone minutes =>
    let span := shownSpan minutes
    "offset must be a timedelta strictly between -timedelta(hours=24) and timedelta(hours=24), "
      ++ s!"not {span}."

/-- A number with at least as many digits as asked for. -/
def padded (width number : Nat) : String :=
  let digits := Nat.toDigits 10 number
  .ofList (List.replicate (width - digits.length) '0' ++ digits)

/-- A date. -/
structure Date where
  year : Nat
  month : Nat
  day : Nat
  deriving DecidableEq, Repr

namespace Date

/-- Whether a year has a leap day. -/
def isLeap (year : Nat) : Bool := year % 4 = 0 && (year % 100 ≠ 0 || year % 400 = 0)

/-- How many days a month has. -/
def daysIn (year month : Nat) : Nat :=
  if month = 2 then if isLeap year then 29 else 28
  else if month ∈ [4, 6, 9, 11] then 30
  else 31

/-- The date of a day. -/
def make (year month day : Nat) : Except CalendarError Date :=
  if year < 1 || 9999 < year then .error (.year year)
  else if month < 1 || 12 < month then .error .month
  else if day < 1 || daysIn year month < day then .error .day
  else .ok { year, month, day }

/-- A date in figures. -/
def text (date : Date) : String :=
  "-".intercalate [padded 4 date.year, padded 2 date.month, padded 2 date.day]

/-- A date as messages show it. -/
def shown (date : Date) : String :=
  let list := ", ".intercalate ([date.year, date.month, date.day].map toString)
  s!"datetime.date({list})"

/-- How many days lie between the end of the year before the first one and a date. -/
def number (date : Date) : Nat :=
  let before := date.year - 1
  let inMonths := (List.range (date.month - 1)).foldl (fun days k =>
    days + daysIn date.year (k + 1)) 0
  before * 365 + before / 4 - before / 100 + before / 400 + inMonths + date.day

end Date

/-- A moment. -/
structure Moment where
  date : Date
  hour : Nat
  minute : Nat
  second : Nat
  microsecond : Nat
  zone : Option Int
  deriving DecidableEq, Repr

namespace Moment

/-- The moment of a day at a time, with a zone less than a day ahead or behind if one is given. -/
def make (day : Except CalendarError Date) (hour minute second microsecond : Nat)
    (zone : Option Int) : Except CalendarError Moment := do
  if let some minutes := zone then
    if 1440 ≤ minutes.natAbs then throw (.zone minutes)
  let date ← day
  if 23 < hour then throw .hour
  if 59 < minute then throw .minute
  if 59 < second then throw .second
  return { date, hour, minute, second, microsecond, zone }

/-- A zone in figures. -/
def zoneText (minutes : Int) : String :=
  let sign := if minutes < 0 then "-" else "+"
  sign ++ padded 2 (minutes.natAbs / 60) ++ ":" ++ padded 2 (minutes.natAbs % 60)

/-- A moment in figures. -/
def text (moment : Moment) : String :=
  moment.date.text ++ " "
    ++ ":".intercalate ([moment.hour, moment.minute, moment.second].map (padded 2))
    ++ (if moment.microsecond = 0 then "" else "." ++ padded 6 moment.microsecond)
    ++ (moment.zone.map zoneText).getD ""

/-- A zone as messages show it. -/
def shownZone (minutes : Int) : String :=
  let span := shownSpan minutes
  if minutes = 0 then "datetime.timezone.utc" else s!"datetime.timezone({span})"

/-- A moment as messages show it.  Microseconds are left out if they are zero, and seconds with
them. -/
def shown (moment : Moment) : String :=
  let date := moment.date
  let numbers := [date.year, date.month, date.day, moment.hour, moment.minute]
    ++ (if moment.second = 0 && moment.microsecond = 0 then [] else [moment.second])
    ++ (if moment.microsecond = 0 then [] else [moment.microsecond])
  let zone := (moment.zone.map fun minutes => "tzinfo=" ++ shownZone minutes).toList
  let list := ", ".intercalate (numbers.map toString ++ zone)
  s!"datetime.datetime({list})"

/-- How many microseconds lie between a fixed moment and this one, without regard to zones. -/
def clock (moment : Moment) : Nat :=
  (((moment.date.number * 24 + moment.hour) * 60 + moment.minute) * 60 + moment.second) * 1000000
    + moment.microsecond

/-- Whether two moments are one: with zones the same instant, and without zones the same time. -/
def isSame (a b : Moment) : Bool :=
  let microseconds (minutes : Int) : Int := minutes * 60000000
  match a.zone, b.zone with
  | some x, some y => (a.clock : Int) - microseconds x = (b.clock : Int) - microseconds y
  | none, none => a.clock = b.clock
  | _, _ => false

end Moment

end ManifestLint
