/-!
# Days and moments

Dates of the calendar, with or without a time of the day. A `Day` exists in the calendar and a
`Moment` exists on its day; whoever has the numbers of one and not the thing itself asks `Day.of` or
`Moment.of`, which name the first part that is wrong.

A moment may state how far its clock is ahead of the prime meridian. Two moments are the same if
they state it both and lie at the same point of time, or state it neither and read the same.
-/

namespace DetectionFlow

/-- A part of a date with a time. -/
inductive DatePart
  | year
  | month
  | day
  | hour
  | minute
  | second
  deriving DecidableEq

/-- What is wrong with a part of a date. -/
def DatePart.message : DatePart → String
  | year => "year 0 is out of range"
  | month => "month must be in 1..12"
  | day => "day is out of range for month"
  | hour => "hour must be in 0..23"
  | minute => "minute must be in 0..59"
  | second => "second must be in 0..59"

/-! ## Days -/

namespace Calendar

/-- The year has a day more. -/
def isLong (year : Nat) : Bool := year % 4 = 0 && (year % 100 ≠ 0 || year % 400 = 0)

/-- The days of a month. -/
def daysOf (year month : Nat) : Nat :=
  if month = 2 then (if isLong year then 29 else 28)
  else if month = 4 ∨ month = 6 ∨ month = 9 ∨ month = 11 then 30 else 31

/-- The first part of a day that the calendar does not have. -/
def wrongDay? (year month day : Nat) : Option DatePart :=
  if year = 0 then some .year
  else if month = 0 ∨ 12 < month then some .month
  else if day = 0 ∨ daysOf year month < day then some .day
  else none

/-- The first part of a time that a day does not have. -/
def wrongTime? (hour minute second : Nat) : Option DatePart :=
  if 23 < hour then some .hour
  else if 59 < minute then some .minute
  else if 59 < second then some .second
  else none

/-- How many days there are before a year. -/
def daysBeforeYear (year : Nat) : Nat :=
  let past := year - 1
  365 * past + past / 4 - past / 100 + past / 400

/-- How many days of a year there are before a month. -/
def daysBeforeMonth (year : Nat) : Nat → Nat
  | 0 | 1 => 0
  | month + 1 => daysBeforeMonth year month + daysOf year month

/-- A number with zeros in front up to a width. -/
def padded (width n : Nat) : String :=
  let digits := toString n
  String.ofList (List.replicate (width - digits.length) '0') ++ digits

end Calendar

open Calendar

/-- A day of the calendar. -/
structure Day where
  year : Nat
  month : Nat
  day : Nat
  exists_ : wrongDay? year month day = none
  deriving DecidableEq

namespace Day

/-- The day of three numbers, or the first of them that is wrong. -/
def of (year month day : Nat) : Except DatePart Day :=
  match h : wrongDay? year month day with
  | none => .ok ⟨year, month, day, h⟩
  | some part => .error part

/-- The days up to this one. -/
def number (d : Day) : Nat :=
  daysBeforeYear d.year + daysBeforeMonth d.year d.month + d.day

/-- Year, month and day between dashes. -/
def shown (d : Day) : String :=
  padded 4 d.year ++ "-" ++ padded 2 d.month ++ "-" ++ padded 2 d.day

/-- The numbers of a day. -/
def parts (d : Day) : List Nat := [d.year, d.month, d.day]

/-- A day inside a message. -/
def quoted (d : Day) : String :=
  "datetime.date(" ++ String.intercalate ", " (d.parts.map toString) ++ ")"

end Day

/-! ## Moments -/

/-- The minutes of a day. -/
def minutesOfDay : Nat := 24 * 60

/-- A time on a day. -/
structure Moment where
  day : Day
  hour : Nat
  minute : Nat
  second : Nat
  microsecond : Nat
  /-- How many minutes the clock is ahead, if that is stated. -/
  offset : Option Int
  exists_ : wrongTime? hour minute second = none
  deriving DecidableEq

namespace Moment

/-- The moment of some numbers on a day, or the first of them that is wrong. -/
def of (day : Day) (hour minute second microsecond : Nat) (offset : Option Int) :
    Except DatePart Moment :=
  match h : wrongTime? hour minute second with
  | none => .ok ⟨day, hour, minute, second, microsecond, offset, h⟩
  | some part => .error part

/-- The microseconds from the first day to the moment, on a clock that is ahead by some minutes. -/
def distance (m : Moment) (ahead : Int) : Int :=
  (((m.day.number * minutesOfDay + m.hour * 60 + m.minute : Int) - ahead) * 60 + m.second) *
    1000000 + m.microsecond

/-- The same point of time. A moment without an offset is never one with an offset. -/
def same (a b : Moment) : Bool :=
  match a.offset, b.offset with
  | some p, some q => a.distance p = b.distance q
  | none, none => a.distance 0 = b.distance 0
  | _, _ => false

/-- The time of the day, with a fraction of a second if it has one. -/
def clock (m : Moment) : String :=
  padded 2 m.hour ++ ":" ++ padded 2 m.minute ++ ":" ++ padded 2 m.second ++
    (if m.microsecond = 0 then "" else "." ++ padded 6 m.microsecond)

/-- An offset as hours and minutes with a sign. -/
def offsetShown (minutes : Int) : String :=
  (if minutes < 0 then "-" else "+") ++ padded 2 (minutes.natAbs / 60) ++ ":" ++
    padded 2 (minutes.natAbs % 60)

/-- A moment as a text of its own. -/
def shown (m : Moment) : String :=
  m.day.shown ++ " " ++ m.clock ++ ((m.offset.map offsetShown).getD "")

/-- A moment as documents write it: no offset of hours and minutes is a letter. -/
def written (m : Moment) : String :=
  m.day.shown ++ "T" ++ m.clock ++
    (match m.offset with
    | none => ""
    | some minutes => if minutes = 0 then "Z" else offsetShown minutes)

/-- A span of minutes inside a message, as days that may be negative and seconds that are not. -/
def spanQuoted (minutes : Int) : String :=
  let days := minutes.fdiv minutesOfDay
  let seconds := minutes.fmod minutesOfDay * 60
  "datetime.timedelta(" ++ String.intercalate ", "
    ((if days = 0 then [] else ["days=" ++ toString days]) ++
      (if seconds = 0 then [] else ["seconds=" ++ toString seconds])) ++ ")"

/-- An offset inside a message. -/
def offsetQuoted (minutes : Int) : String :=
  if minutes = 0 then "datetime.timezone.utc"
  else "datetime.timezone(" ++ spanQuoted minutes ++ ")"

/-- The numbers of the time; at the end a fraction of zero and then a second of zero are left
out. -/
def parts (m : Moment) : List Nat :=
  [m.hour, m.minute] ++
    (if m.microsecond = 0 then (if m.second = 0 then [] else [m.second])
    else [m.second, m.microsecond])

/-- A moment inside a message. -/
def quoted (m : Moment) : String :=
  "datetime.datetime(" ++ String.intercalate ", "
    ((m.day.parts ++ m.parts).map toString ++
      (m.offset.map fun minutes => "tzinfo=" ++ offsetQuoted minutes).toList) ++ ")"

end Moment
end DetectionFlow
