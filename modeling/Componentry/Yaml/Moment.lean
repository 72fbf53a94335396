import Componentry.Text.Lines
import Componentry.Yaml.Tag
import Componentry.Yaml.Token

/-!
# Points in time

Dates of the Gregorian calendar, possibly with a time of day and an offset from universal time. No
description has a field for them; they appear as values that no field takes.
-/

namespace Componentry.Yaml

/-- A time of day. -/
structure TimeOfDay where
  hour : Nat
  minute : Nat
  second : Nat
  microsecond : Nat
  /-- The offset from universal time, in minutes. -/
  offset : Option Int
  deriving DecidableEq

/-- A date, possibly with a time of day. -/
structure Moment where
  year : Nat
  month : Nat
  day : Nat
  time : Option TimeOfDay
  deriving DecidableEq

namespace Moment

/-- The number that digits denote. -/
def number (digits : List Char) : Nat :=
  digits.foldl (fun n d => n * 10 + (d.toNat - 0x30)) 0

/-- The number of days of a month. -/
def daysIn (year month : Nat) : Nat :=
  if month = 2 then if year % 4 = 0 && (year % 100 != 0 || year % 400 = 0) then 29 else 28
  else if month ∈ [4, 6, 9, 11] then 30
  else 31

/-- A span of time as messages show it, given in minutes. -/
def shownSpan (minutes : Int) : String :=
  let days := Int.fdiv minutes 1440
  let seconds := Int.fmod minutes 1440 * 60
  let parts := (if days = 0 then [] else [s!"days={days}"]) ++ if seconds = 0 then []
    else [s!"seconds={seconds}"]
  "datetime.timedelta(" ++ (if parts.isEmpty then "0" else Text.joined ", " parts) ++ ")"

/-- The point in time that a text denotes, if its parts are in range. -/
def ofStamp (t : Stamp) : Except Problem Moment := do
  let refuse (report : String) : Except Problem Unit := throw (.scalar (.value report))
  let (year, month, day) := (number t.year, number t.month, number t.day)
  let offset : Option Int := t.zone.map fun (negative, hours, minutes) =>
    let span : Int := number hours * 60 + number minutes
    if negative then -span else span
  match offset with
  | some o =>
    if o ≤ -1440 || 1440 ≤ o then
      refuse ("offset must be a timedelta strictly between -timedelta(hours=24) and timedelta(hours=24), not "
        ++ shownSpan o ++ ".")
  | none => pure ()
  if year = 0 then refuse "year 0 is out of range"
  if month = 0 || 12 < month then refuse "month must be in 1..12"
  if day = 0 || daysIn year month < day then refuse "day is out of range for month"
  match t.time with
  | none => return ⟨year, month, day, none⟩
  | some (hour, minute, second, fraction) =>
    let (hour, minute, second) := (number hour, number minute, number second)
    if 23 < hour then refuse "hour must be in 0..23"
    if 59 < minute then refuse "minute must be in 0..59"
    if 59 < second then refuse "second must be in 0..59"
    let digits := fraction.take 6
    let microsecond := number (digits ++ List.replicate (6 - digits.length) '0')
    return ⟨year, month, day, some ⟨hour, minute, second, microsecond, offset⟩⟩

/-- A point in time as messages show it. -/
def shown (m : Moment) : String :=
  match m.time with
  | none => s!"datetime.date({m.year}, {m.month}, {m.day})"
  | some t =>
    let small :=
      if t.microsecond != 0 then s!", {t.second}, {t.microsecond}"
      else if t.second != 0 then s!", {t.second}"
      else ""
    let zone :=
      match t.offset with
      | none => ""
      | some 0 => ", tzinfo=datetime.timezone.utc"
      | some o => ", tzinfo=datetime.timezone(" ++ shownSpan o ++ ")"
    s!"datetime.datetime({m.year}, {m.month}, {m.day}, {t.hour}, {t.minute}" ++ small ++ zone ++ ")"

end Moment

end Componentry.Yaml
