import SqlBuilder.Text.Strip

/-!
Dates, perhaps with a time of day. A time may tell the zone of its clock by the minutes that the clock is
ahead of universal time. Two such times are the same if they are the same instant; without a zone the
clocks must agree.
-/

namespace SqlBuilder

structure TimeOfDay where
  hour : Nat
  minute : Nat
  second : Nat
  microsecond : Nat
  /-- How many minutes the clock is ahead of universal time, if that is told. -/
  offset : Option Int
  deriving DecidableEq, Repr

structure Moment where
  year : Nat
  month : Nat
  day : Nat
  time : Option TimeOfDay
  deriving DecidableEq, Repr

/-- A span of time as days and seconds, where the seconds are fewer than those of a day. -/
structure TimeSpan where
  days : Int
  seconds : Int
  deriving DecidableEq, Repr

namespace TimeSpan

def ofMinutes (minutes : Int) : TimeSpan := ⟨Int.fdiv minutes 1440, 60 * Int.fmod minutes 1440⟩

/-- The span by those of its parts that are not zero. -/
def shown (s : TimeSpan) : String :=
  let parts := [("days", s.days), ("seconds", s.seconds)].filter fun part => part.2 ≠ 0
  "datetime.timedelta(" ++
    (if parts.isEmpty then "0" else Text.joined ", " (parts.map fun part => part.1 ++ "=" ++ toString part.2)) ++
    ")"

end TimeSpan

namespace Moment

def isLeap (year : Nat) : Bool := year % 4 = 0 && (year % 100 ≠ 0 || year % 400 = 0)

def daysIn (year month : Nat) : Nat :=
  if month = 2 then (if isLeap year then 29 else 28)
  else if [4, 6, 9, 11].contains month then 30
  else 31

/-- Why there is no such moment. -/
def refusal? (m : Moment) : Option String :=
  if m.year = 0 then some "year 0 is out of range"
  else if m.month < 1 || 12 < m.month then some "month must be in 1..12"
  else if m.day < 1 || daysIn m.year m.month < m.day then some "day is out of range for month"
  else match m.time with
    | none => none
    | some time =>
      if 24 ≤ time.hour then some "hour must be in 0..23"
      else if 60 ≤ time.minute then some "minute must be in 0..59"
      else if 60 ≤ time.second then some "second must be in 0..59"
      else none

/-- The number of days in front of a year. -/
def daysBeforeYear (year : Nat) : Nat :=
  let past := year - 1
  365 * past + past / 4 - past / 100 + past / 400

/-- The number of the day, counted through all years. -/
def dayNumber (m : Moment) : Nat :=
  (List.range (m.month - 1)).foldl (fun days n => days + daysIn m.year (n + 1)) (daysBeforeYear m.year) + m.day

/-- The microseconds of universal time up to a time of the day with the given number. -/
def instant (day : Nat) (time : TimeOfDay) (offset : Int) : Int :=
  (((24 * day + time.hour : Nat) * 60 + time.minute - offset) * 60 + time.second) * 1000000 + time.microsecond

/-- The same date, or the same instant. -/
def same (m n : Moment) : Bool :=
  match m.time, n.time with
  | none, none => m = n
  | some s, some t => match s.offset, t.offset with
    | none, none => m = n
    | some p, some q => instant m.dayNumber s p == instant n.dayNumber t q
    | _, _ => false
  | _, _ => false

/-- The zone of a clock that is ahead of universal time by so many minutes. -/
def shownZone (offset : Int) : String :=
  if offset = 0 then "datetime.timezone.utc"
  else "datetime.timezone(" ++ (TimeSpan.ofMinutes offset).shown ++ ")"

/-- The parts of a time of day. Zeros at the end are left out behind the minutes. -/
def shownTime (time : TimeOfDay) : List String :=
  let parts :=
    if time.microsecond ≠ 0 then [time.hour, time.minute, time.second, time.microsecond]
    else if time.second ≠ 0 then [time.hour, time.minute, time.second]
    else [time.hour, time.minute]
  parts.map toString ++
    (match time.offset with
      | none => []
      | some offset => ["tzinfo=" ++ shownZone offset])

/-- The moment as a message shows it. -/
def shown (m : Moment) : String :=
  let date := [toString m.year, toString m.month, toString m.day]
  match m.time with
  | none => "datetime.date(" ++ Text.joined ", " date ++ ")"
  | some time => "datetime.datetime(" ++ Text.joined ", " (date ++ shownTime time) ++ ")"

end Moment

end SqlBuilder
