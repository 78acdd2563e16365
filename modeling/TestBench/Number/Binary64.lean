/-! Floating-point numbers with 53 significant bits as exact values: a finite number is a sign, a
natural number and a power of two. The operations compute exactly and then round to the nearest
number, a tie going to the even neighbour; no machine arithmetic is involved. -/
namespace TestBench

/-- A floating-point number. The value of `finite s m e` is `m * 2 ^ e`, negated if `s`. Numbers
made by `Binary64.round` have `m < 2 ^ 53`, `-1074 ≤ e`, and `2 ^ 52 ≤ m` unless `e = -1074`, so
equal values other than the zeros have equal parts. -/
inductive Binary64 where
  | finite (negative : Bool) (significand : Nat) (exponent : Int)
  | infinite (negative : Bool)
  | nan
  deriving DecidableEq, Repr

/-- The quotient of two natural numbers, rounded to the nearest one, a tie to the even one. -/
def divNearestEven (n d : Nat) : Nat :=
  let q := n / d
  let r := n % d
  if d < 2 * r ∨ (2 * r = d ∧ q % 2 = 1) then q + 1 else q

namespace Binary64

def zero : Binary64 := .finite false 0 (-1074)

def minExponent : Int := -1074

def maxExponent : Int := 971

def leastSignificand : Nat := 0x10000000000000

def significandBound : Nat := 0x20000000000000

def scaled (n d : Nat) (e : Int) : Nat × Nat :=
  if 0 ≤ e then (n, d * Nat.pow 2 e.toNat) else (n * Nat.pow 2 (-e).toNat, d)

/-- The exponent with which `n / d` has 53 significant bits, but at least the smallest one. -/
def exponentOf (n d : Nat) : Int :=
  let e : Int := (n.log2 : Int) - (d.log2 : Int) - 52
  let (a, b) := scaled n d e
  max minExponent (if a / b < leastSignificand then e - 1 else e)

def round (negative : Bool) (n d : Nat) : Binary64 :=
  if n = 0 then .finite negative 0 minExponent
  else
    let e := exponentOf n d
    let (a, b) := scaled n d e
    let m := divNearestEven a b
    let (m, e) := if m = significandBound then (leastSignificand, e + 1) else (m, e)
    if maxExponent < e then .infinite negative else .finite negative m e

def ofRat (q : Rat) : Binary64 :=
  round (q < 0) q.num.natAbs q.den

def ofInt (n : Int) : Binary64 :=
  round (n < 0) n.natAbs 1

def dyadic (m : Nat) (e : Int) : Rat :=
  (m : Rat) * (2 : Rat) ^ e

def toRat? : Binary64 → Option Rat
  | .finite negative m e => some (if negative then -dyadic m e else dyadic m e)
  | _ => none

def isNegative : Binary64 → Bool
  | .finite negative _ _ | .infinite negative => negative
  | .nan => false

def isZero : Binary64 → Bool
  | .finite _ m _ => m == 0
  | _ => false

def neg : Binary64 → Binary64
  | .finite negative m e => .finite (!negative) m e
  | .infinite negative => .infinite (!negative)
  | .nan => .nan

/-- The rounded value of an exact one, with the sign `negative` if that is zero. -/
def ofRatSigned (negative : Bool) (q : Rat) : Binary64 :=
  if q = 0 then .finite negative 0 minExponent else ofRat q

def add (x y : Binary64) : Binary64 :=
  match x, y with
  | .nan, _ | _, .nan => .nan
  | .infinite s, .infinite t => if s = t then x else .nan
  | .infinite _, _ => x
  | _, .infinite _ => y
  | .finite s m e, .finite t n f =>
    let value (s : Bool) (m : Nat) (e : Int) := if s then -dyadic m e else dyadic m e
    ofRatSigned (s && t) (value s m e + value t n f)

def sub (x y : Binary64) : Binary64 :=
  add x (neg y)

def mul (x y : Binary64) : Binary64 :=
  let s := x.isNegative != y.isNegative
  match x, y with
  | .nan, _ | _, .nan => .nan
  | .infinite _, .finite _ m _ | .finite _ m _, .infinite _ =>
    if m = 0 then .nan else .infinite s
  | .infinite _, .infinite _ => .infinite s
  | .finite _ m e, .finite _ n f =>
    let q := dyadic m e * dyadic n f
    ofRatSigned s (if s then -q else q)

def div (x y : Binary64) : Binary64 :=
  let s := x.isNegative != y.isNegative
  match x, y with
  | .nan, _ | _, .nan => .nan
  | .infinite _, .finite .. => .infinite s
  | .infinite _, .infinite _ => .nan
  | .finite .., .infinite _ => .finite s 0 minExponent
  | .finite _ m e, .finite _ n f =>
    let q := dyadic m e / dyadic n f
    ofRatSigned s (if s then -q else q)

/-- The integer part, the fraction cut off; none if there is no such integer. -/
def truncate? (x : Binary64) : Option Int :=
  x.toRat?.map fun q => if q < 0 then -(-q).floor else q.floor

def toBits : Binary64 → UInt64
  | .nan => 0x7FF8000000000000
  | .infinite s => (if s then 0x8000000000000000 else 0) ||| 0x7FF0000000000000
  | .finite s m e =>
    let word :=
      if m < leastSignificand then m
      else ((e - minExponent).toNat + 1) * leastSignificand + (m - leastSignificand)
    (if s then 0x8000000000000000 else 0) ||| UInt64.ofNat word

end Binary64

end TestBench
