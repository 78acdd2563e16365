import TestBench.Calendar
import TestBench.Fault
import TestBench.Text.Digit

/-! A timestamp is a day, or a day and a time on it, perhaps with a fraction of a second and the
offset of the clock. What has the form can still be no date. -/
namespace TestBench.Yaml

structure WrittenTime where
  hour : Nat
  minute : Nat
  second : Nat
  fraction : List Nat
  /-- The offset in seconds. -/
  offset : Option Int
  deriving DecidableEq, Repr

structure Timestamp where
  year : Nat
  month : Nat
  day : Nat
  time : Option WrittenTime
  deriving DecidableEq, Repr

def digitRun? (least most : Nat) (cs : List Char) : Option (Nat × List Char) :=
  let digits := (cs.take most).takeWhile fun c => (Text.asciiDigit? c).isSome
  if digits.length < least then none
  else
    some (digits.foldl (fun n c => n * 10 + (Text.asciiDigit? c).getD 0) 0, cs.drop digits.length)

def after? (c : Char) : List Char → Option (List Char)
  | [] => none
  | d :: rest => if d = c then some rest else none

/-- Whether nothing is left, a line feed at the end apart. -/
def isOver (cs : List Char) : Bool :=
  cs.isEmpty || cs == ['\n']

def offset? (cs : List Char) : Option Int :=
  match cs with
  | 'Z' :: rest => if isOver rest then some 0 else none
  | sign :: rest =>
    if sign = '+' ∨ sign = '-' then do
      let (hours, rest) ← digitRun? 1 2 rest
      let minutes ←
        match rest with
        | ':' :: rest => do
          let (minutes, rest) ← digitRun? 2 2 rest
          if isOver rest then some minutes else none
        | rest => if isOver rest then some 0 else none
      let seconds : Int := hours * 3600 + minutes * 60
      return if sign = '-' then -seconds else seconds
    else none
  | [] => none

def splitFraction (cs : List Char) : List Nat × List Char :=
  match cs with
  | '.' :: rest =>
    let digits := rest.takeWhile fun c => (Text.asciiDigit? c).isSome
    (digits.filterMap Text.asciiDigit?, rest.drop digits.length)
  | rest => ([], rest)

def time? (cs : List Char) : Option WrittenTime := do
  let (hour, rest) ← digitRun? 1 2 cs
  let (minute, rest) ← digitRun? 2 2 (← after? ':' rest)
  let (second, rest) ← digitRun? 2 2 (← after? ':' rest)
  let (fraction, rest) := splitFraction rest
  if isOver rest then return ⟨hour, minute, second, fraction, none⟩
  else
    let offset ← offset? (rest.dropWhile fun c => c = ' ' || c = '\t')
    return ⟨hour, minute, second, fraction, some offset⟩

def afterDay? (cs : List Char) : Option (List Char) :=
  match cs with
  | [] => none
  | c :: rest =>
    if c = 'T' ∨ c = 't' then some rest
    else if c = ' ' ∨ c = '\t' then some (rest.dropWhile fun c => c = ' ' || c = '\t')
    else none

namespace Timestamp

def ofText? (cs : List Char) : Option Timestamp := do
  let (year, rest) ← digitRun? 4 4 cs
  let (month, rest) ← digitRun? 1 2 (← after? '-' rest)
  let (day, rest) ← digitRun? 1 2 (← after? '-' rest)
  if isOver rest then return ⟨year, month, day, none⟩
  else return ⟨year, month, day, some (← time? (← afterDay? rest))⟩

/-- Whether a text writes a timestamp that is recognized by itself: a day without a time has two
digits for month and day. -/
def isPlain (cs : List Char) : Bool :=
  match ofText? cs with
  | none => false
  | some t => t.time.isSome || (cs.filter (· ≠ '\n')).length = 10

end Timestamp

namespace WrittenTime

/-- The fraction of the second in millionths; further digits are cut off. -/
def microsecond (t : WrittenTime) : Nat :=
  ((t.fraction ++ List.replicate 6 0).take 6).foldl (fun n d => n * 10 + d) 0

end WrittenTime

def daySeconds : Nat := 86400

namespace Timestamp

def moment (t : Timestamp) (time : WrittenTime) : Except CalendarFault Moment :=
  match time.offset with
  | some seconds =>
    if daySeconds ≤ seconds.natAbs then .error (.offset seconds)
    else
      Moment.make t.year t.month t.day time.hour time.minute time.second time.microsecond
        (some seconds)
  | none =>
    Moment.make t.year t.month t.day time.hour time.minute time.second time.microsecond none

end Timestamp

end TestBench.Yaml
