/-! Days of the proleptic Gregorian calendar and moments of a day, checked when they are made, and
the texts they are written as. -/
namespace TestBench

inductive CalendarFault where
  | year (n : Int)
  | month
  | day
  | hour
  | minute
  | second
  /-- An offset from universal time of a day or more; it is given in seconds. -/
  | offset (seconds : Int)
  deriving DecidableEq, Repr

structure Date where
  year : Nat
  month : Nat
  day : Nat
  deriving DecidableEq, Repr

/-- A day and a time on it, with the offset of its clock from universal time in seconds, if
known. -/
structure Moment where
  date : Date
  hour : Nat
  minute : Nat
  second : Nat
  microsecond : Nat := 0
  offset : Option Int := none
  deriving DecidableEq, Repr

def padded (width n : Nat) : String :=
  let ds := Nat.toDigits 10 n
  String.ofList (List.replicate (width - ds.length) '0' ++ ds)

def isLeapYear (year : Nat) : Bool :=
  year % 4 == 0 && (year % 100 != 0 || year % 400 == 0)

def daysInMonth (year month : Nat) : Nat :=
  if month = 2 then (if isLeapYear year then 29 else 28)
  else if month = 4 ∨ month = 6 ∨ month = 9 ∨ month = 11 then 30 else 31

namespace Date

/-- The day with the given numbers; the first number out of range is the fault. -/
def make (year month day : Int) : Except CalendarFault Date :=
  if year < 1 ∨ 9999 < year then .error (.year year)
  else if month < 1 ∨ 12 < month then .error .month
  else if day < 1 ∨ (daysInMonth year.toNat month.toNat : Int) < day then .error .day
  else .ok ⟨year.toNat, month.toNat, day.toNat⟩

/-- The number of the day, counted from the first day of the year 1. -/
def number (d : Date) : Nat :=
  let years := d.year - 1
  let months := (List.range (d.month - 1)).foldl (fun n m => n + daysInMonth d.year (m + 1)) 0
  years * 365 + years / 4 - years / 100 + years / 400 + months + d.day

def text (d : Date) : String :=
  padded 4 d.year ++ "-" ++ padded 2 d.month ++ "-" ++ padded 2 d.day

end Date

namespace Moment

def make (year month day hour minute second : Int) (microsecond : Nat) (offset : Option Int) :
    Except CalendarFault Moment := do
  let date ← Date.make year month day
  if hour < 0 ∨ 23 < hour then .error .hour
  else if minute < 0 ∨ 59 < minute then .error .minute
  else if second < 0 ∨ 59 < second then .error .second
  else .ok ⟨date, hour.toNat, minute.toNat, second.toNat, microsecond, offset⟩

def clockSeconds (m : Moment) : Int :=
  m.date.number * 86400 + m.hour * 3600 + m.minute * 60 + m.second

/-- Whether two moments are the same: at the same time if both offsets are known, with the same
numbers if neither is. -/
def isSame (m n : Moment) : Bool :=
  match m.offset, n.offset with
  | some a, some b =>
    m.clockSeconds - a == n.clockSeconds - b && m.microsecond == n.microsecond
  | none, none => m == n
  | _, _ => false

def clock (m : Moment) : String :=
  padded 2 m.hour ++ ":" ++ padded 2 m.minute ++ ":" ++ padded 2 m.second

/-- The moment in reports and logs; the year is written without leading zeros. -/
def stamp (m : Moment) : String :=
  padded 1 m.date.year ++ "-" ++ padded 2 m.date.month ++ "-" ++ padded 2 m.date.day ++ " " ++
    m.clock

def offsetText (seconds : Int) : String :=
  let minutes := seconds.natAbs / 60
  (if seconds < 0 then "-" else "+") ++ padded 2 (minutes / 60) ++ ":" ++ padded 2 (minutes % 60)

def text (m : Moment) : String :=
  m.date.text ++ " " ++ m.clock ++
    (if m.microsecond = 0 then "" else "." ++ padded 6 m.microsecond) ++
    (m.offset.map offsetText).getD ""

end Moment

/-- A span of time as the days and seconds that its value shows, the seconds from zero on. -/
def spanText (seconds : Int) : String :=
  let days := seconds.fdiv 86400
  let rest := seconds.fmod 86400
  let parts := (if days = 0 then [] else ["days=" ++ toString days]) ++
    (if rest = 0 then [] else ["seconds=" ++ toString rest])
  "datetime.timedelta(" ++ (if parts.isEmpty then "0" else ", ".intercalate parts) ++ ")"

namespace CalendarFault

def message : CalendarFault → String
  | .year n => "year " ++ toString n ++ " is out of range"
  | .month => "month must be in 1..12"
  | .day => "day is out of range for month"
  | .hour => "hour must be in 0..23"
  | .minute => "minute must be in 0..59"
  | .second => "second must be in 0..59"
  | .offset seconds =>
    "offset must be a timedelta strictly between -timedelta(hours=24) and timedelta(hours=24), not "
      ++ spanText seconds ++ "."

end CalendarFault

end TestBench
