import TestBench.Number.Binary64
import TestBench.Text.Numeral

/-! Between decimal texts and floating-point numbers: the number nearest to a decimal, the shortest
decimal that reads back as a number, and the decimal with a fixed number of places. -/
namespace TestBench

def decimalDigits (n : Nat) : List Char :=
  Nat.toDigits 10 n

namespace Binary64

/-- The number nearest to `digits * 10 ^ exponent`. Exponents far outside the range are not
multiplied out. -/
def ofDecimal (negative : Bool) (digits : Nat) (exponent : Int) : Binary64 :=
  let magnitude := ((decimalDigits digits).length : Int) + exponent
  if digits = 0 ∨ magnitude < -400 then .finite negative 0 minExponent
  else if 400 < magnitude then .infinite negative
  else if 0 ≤ exponent then round negative (digits * Nat.pow 10 exponent.toNat) 1
  else round negative digits (Nat.pow 10 (-exponent).toNat)

def side? : List Char → Option (List Nat)
  | [] => some []
  | cs => Text.digits? 10 cs

def cutAt (p : Char → Bool) (cs : List Char) : List Char × Option (List Char) :=
  match cs.dropWhile (!p ·) with
  | [] => (cs, none)
  | _ :: rest => (cs.takeWhile (!p ·), some rest)

/-- The number that an unsigned decimal writes: digits, a point with digits before or after it,
an exponent. -/
def unsigned? (negative : Bool) (cs : List Char) : Option Binary64 := do
  let (mantissa, power) := cutAt (fun c => c = 'e' || c = 'E') cs
  let (whole, part) := cutAt (· = '.') mantissa
  let before ← side? whole
  let after ← side? (part.getD [])
  let exponent ← match power with
    | none => some 0
    | some cs =>
      let (negative, body) := Text.splitSign cs
      (Text.digits? 10 body).map fun ds => Text.signed negative (Text.ofDigits 10 ds)
  if before.isEmpty && after.isEmpty then none
  else some (ofDecimal negative (Text.ofDigits 10 (before ++ after)) (exponent - after.length))

def ofText? (cs : List Char) : Option Binary64 :=
  let (negative, body) := Text.splitSign (Text.trimNumeral cs)
  let word := String.ofList (body.map Char.toLower)
  if word = "inf" ∨ word = "infinity" then some (.infinite negative)
  else if word = "nan" then some .nan
  else unsigned? negative body

/-- The least `p` with `n / d < 10 ^ p`, for `n` other than zero. -/
def decimalPoint (n d : Nat) : Int :=
  if d ≤ n then (decimalDigits (n / d)).length
  else
    let k := (decimalDigits (d / n)).length - 1
    if n * Nat.pow 10 k < d then -(k : Int) else 1 - (k : Int)

def downTo (n d : Nat) (k : Int) : Nat :=
  if 0 ≤ k then n / (d * Nat.pow 10 k.toNat) else n * Nat.pow 10 (-k).toNat / d

def distance (n d : Nat) (c : Nat) (k : Int) : Rat :=
  ((c : Rat) * (10 : Rat) ^ k - mkRat n d).abs

/-- The decimal of `count` digits nearest to `n / d` that reads back as `x`, as its digits and the
power of ten they are multiplied with. Only the two neighbours of `n / d` can read back. -/
def withDigits? (x : Binary64) (n d : Nat) (count : Nat) : Option (Nat × Int) :=
  let k := decimalPoint n d - count
  let low := downTo n d k
  let readsBack (c : Nat) : Bool := c != 0 && ofDecimal false c k == x
  match readsBack low, readsBack (low + 1) with
  | true, false => some (low, k)
  | false, true => some (low + 1, k)
  | true, true =>
    let below := distance n d low k
    let above := distance n d (low + 1) k
    some (if below < above ∨ (below = above ∧ low % 2 = 0) then low else low + 1, k)
  | false, false => none

/-- The decimal of the fewest digits that reads back as the positive number `m * 2 ^ e`. Seventeen
digits are always enough. -/
def shortest (m : Nat) (e : Int) : Nat × Int :=
  let (n, d) := scaled m 1 (-e)
  let counts := (List.range 17).map (· + 1)
  (counts.findSome? (withDigits? (.finite false m e) n d)).getD (m, 0)

/-- The digits of a decimal without the zeros at the end, and where its point stands: how many of
the digits come before it. -/
def pointed (digits : Nat) (k : Int) : List Char × Int :=
  let ds := decimalDigits digits
  ((ds.reverse.dropWhile (· = '0')).reverse, ds.length + k)

/-- Digits with the point after the first `point` of them, and with a digit on either side of
it. -/
def positional (ds : List Char) (point : Int) : List Char :=
  if point ≤ 0 then '0' :: '.' :: List.replicate (-point).toNat '0' ++ ds
  else
    let p := point.toNat
    let whole := ds.take p ++ List.replicate (p - ds.length) '0'
    whole ++ '.' :: (if ds.length ≤ p then ['0'] else ds.drop p)

def scientific (ds : List Char) (point : Int) : List Char :=
  let power := point - 1
  let digits := decimalDigits power.natAbs
  ds.take 1 ++ (if ds.length ≤ 1 then [] else '.' :: ds.drop 1) ++
    'e' :: (if power < 0 then '-' else '+') :: (if digits.length < 2 then '0' :: digits else digits)

/-- The shortest text that reads back as the number: positional from 0.0001 up to below 10 ^ 16,
with an exponent outside. -/
def text : Binary64 → String
  | .nan => "nan"
  | .infinite negative => if negative then "-inf" else "inf"
  | .finite negative m e =>
    let body :=
      if m = 0 then ['0', '.', '0']
      else
        let (digits, k) := shortest m e
        let (ds, point) := pointed digits k
        if -4 < point ∧ point ≤ 16 then positional ds point else scientific ds point
    String.ofList (if negative then '-' :: body else body)

/-- `|m * 2 ^ e|` as a whole number of units `10 ^ -places`, rounded to nearest, a tie to even. -/
def inUnits (places : Nat) (m : Nat) (e : Int) : Nat :=
  let (n, d) := scaled m 1 (-e)
  divNearestEven (n * Nat.pow 10 places) d

def withPlaces (places units : Nat) : List Char :=
  let part := decimalDigits (units % Nat.pow 10 places)
  decimalDigits (units / Nat.pow 10 places) ++
    '.' :: (List.replicate (places - part.length) '0' ++ part)

def fixed (places : Nat) : Binary64 → String
  | .finite negative m e =>
    let body := withPlaces places (inUnits places m e)
    String.ofList (if negative then '-' :: body else body)
  | x => x.text

end Binary64

end TestBench
