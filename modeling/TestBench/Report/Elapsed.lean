import TestBench.Calendar
import TestBench.Fault
import TestBench.Number.Decimal

/-! A number of seconds is written as minutes and the seconds that are left. Both are computed in
floating point, and the seconds are rounded to two places on their own. -/
namespace TestBench

namespace Binary64

/-- The remainder of a finite number in division by a positive integer, with the sign of the
number. It is exact. -/
def remainder (x : Binary64) (n : Nat) : Binary64 :=
  match x.toRat? with
  | none => .nan
  | some q =>
    let r := q.abs - ((q.abs / n).floor : Rat) * n
    ofRatSigned x.isNegative (if x.isNegative then -r else r)

def floor (x : Binary64) : Binary64 :=
  match x.toRat? with
  | none => x
  | some q => ofRatSigned x.isNegative (q.floor : Int)

/-- The nearest integer to a finite number that is nearly one: its floor, or the next integer if the
number is more than a half above it. -/
def snap (x : Binary64) : Binary64 :=
  let low := x.floor
  match (x.sub low).toRat? with
  | some gap => if 1 / 2 < gap then low.add (ofInt 1) else low
  | none => low

/-- Quotient and remainder of a number in division by a positive integer. The quotient is an
integer, rounded down, and the remainder is not negative; for numbers that are not finite, neither
is either. -/
def divMod (x : Binary64) (n : Nat) : Binary64 × Binary64 :=
  let d := ofInt n
  let r := x.remainder n
  let q := (x.sub r).div d
  if r.isZero then (q.snap, zero)
  else if r.isNegative then ((q.sub (ofInt 1)).snap, r.add d)
  else (q.snap, r)

end Binary64

def wholeNumber (x : Binary64) : Except Fault Int :=
  match x with
  | .nan => .error .notANumber
  | .infinite _ => .error .infiniteNumber
  | x => .ok (x.truncate?.getD 0)

def elapsedLine (seconds : Binary64) : Except Fault String := do
  let (minutes, rest) := seconds.divMod 60
  return "tests completed in " ++ toString (← wholeNumber minutes) ++ " minutes " ++ rest.fixed 2 ++
    " seconds"

end TestBench
