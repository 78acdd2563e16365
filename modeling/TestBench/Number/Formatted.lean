import TestBench.Number.Decimal

/-! The number that a text starts with, in base ten or sixteen, and numbers written with a fixed
number of digits: with places, with an exponent, the shorter of the two, or in base sixteen. All
digits are those of the exact value, rounded to nearest, a tie to even. -/
namespace TestBench.Binary64

def dropWord? (word : String) (cs : List Char) : Option (List Char) :=
  if (cs.take word.length).map Char.toLower = word.toList then some (cs.drop word.length) else none

def hexValue (c : Char) : Nat :=
  if c.isDigit then c.toNat - '0'.toNat else c.toLower.toNat - 'a'.toNat + 10

def isHexDigit (c : Char) : Bool :=
  c.isDigit || ('a' ≤ c.toLower && c.toLower ≤ 'f')

def pointedStart (isDigit : Char → Bool) (cs : List Char) : List Char × Nat × List Char :=
  let whole := cs.takeWhile isDigit
  match cs.drop whole.length with
  | '.' :: rest =>
    let part := rest.takeWhile isDigit
    if whole.isEmpty && part.isEmpty then ([], 0, cs)
    else (whole ++ part, part.length, rest.drop part.length)
  | rest => (whole, 0, rest)

def exponentStart (letter : Char) (cs : List Char) : Int × List Char :=
  match cs with
  | c :: rest =>
    let (negative, digits) := match rest with
      | '-' :: digits => (true, digits)
      | '+' :: digits => (false, digits)
      | digits => (false, digits)
    let run := digits.takeWhile Char.isDigit
    if c.toLower ≠ letter || run.isEmpty then (0, cs)
    else
      let n : Nat := run.foldl (fun n c => n * 10 + (c.toNat - '0'.toNat)) 0
      (if negative then -(n : Int) else n, digits.drop run.length)
  | [] => (0, [])

/-- The number nearest to `m * 2 ^ e`; exponents far outside the range are not multiplied out. -/
def ofBinary (negative : Bool) (m : Nat) (e : Int) : Binary64 :=
  if m = 0 ∨ (m.log2 : Int) + e < -1200 then .finite negative 0 minExponent
  else if 1200 < (m.log2 : Int) + e then .infinite negative
  else if 0 ≤ e then round negative (m * Nat.pow 2 e.toNat) 1
  else round negative m (Nat.pow 2 (-e).toNat)

/-- Whether `digits * base ^ power`, to which a number is nearest, is out of the range of numbers:
too large, or so small that digits are lost. -/
def isOutOfRange (x : Binary64) (digits base : Nat) (power : Int) : Bool :=
  match x with
  | .infinite _ => true
  | .nan => false
  | .finite _ m _ =>
    digits ≠ 0 && m < Nat.pow 2 52 && (power < -1200 ||
      digits * Nat.pow 2 minExponent.natAbs ≠ m * Nat.pow base power.natAbs)

structure Start where
  isNegative : Bool
  value : Binary64
  outOfRange : Bool := false
  rest : List Char

def unsignedStart? (negative : Bool) (cs : List Char) : Option Start :=
  let number (base : Nat) (digits : List Char) : Nat :=
    digits.foldl (fun n c => n * base + hexValue c) 0
  let decimal : Option Start :=
    let (digits, places, rest) := pointedStart Char.isDigit cs
    if digits.isEmpty then none
    else
      let (power, rest) := exponentStart 'e' rest
      let value := ofDecimal negative (number 10 digits) (power - places)
      some ⟨negative, value, isOutOfRange value (number 10 digits) 10 (power - places), rest⟩
  match dropWord? "infinity" cs, dropWord? "inf" cs, dropWord? "nan" cs, dropWord? "0x" cs with
  | some rest, _, _, _ | none, some rest, _, _ =>
    some ⟨negative, .infinite negative, false, rest⟩
  | none, none, some rest, _ => some ⟨negative, .nan, false, rest⟩
  | none, none, none, some rest =>
    let (digits, places, rest) := pointedStart isHexDigit rest
    if digits.isEmpty then decimal
    else
      let (power, rest) := exponentStart 'p' rest
      let value := ofBinary negative (number 16 digits) (power - 4 * places)
      some ⟨negative, value, isOutOfRange value (number 16 digits) 2 (power - 4 * places), rest⟩
  | none, none, none, none => decimal

def start? (cs : List Char) : Option Start :=
  match cs.dropWhile fun c => c = ' ' || ('\t' ≤ c && c ≤ '\r') with
  | '-' :: rest => unsignedStart? true rest
  | '+' :: rest => unsignedStart? false rest
  | rest => unsignedStart? false rest

/-- The first digits of a positive number, so many of them, and the exponent of the first one. -/
def leadingDigits (count m : Nat) (e : Int) : List Char × Int :=
  let (n, d) := scaled m 1 (-e)
  let point := decimalPoint n d
  let k := point - count
  let units := if 0 ≤ k then divNearestEven n (d * Nat.pow 10 k.toNat)
    else divNearestEven (n * Nat.pow 10 (-k).toNat) d
  if units = Nat.pow 10 count then (decimalDigits (units / 10), point)
  else (decimalDigits units, point - 1)

def withPoint (keepPoint : Bool) (ds : List Char) : List Char :=
  ds.take 1 ++ (if ds.length ≤ 1 && !keepPoint then [] else '.' :: ds.drop 1)

def writtenExponent (letter : Char) (least : Nat) (power : Int) : List Char :=
  let digits := decimalDigits power.natAbs
  letter :: (if power < 0 then '-' else '+') ::
    (List.replicate (least - digits.length) '0' ++ digits)

def inPlaces (keepPoint : Bool) (places m : Nat) (e : Int) : List Char :=
  let body := withPlaces places (inUnits places m e)
  if places = 0 then body.takeWhile (· ≠ '.') ++ (if keepPoint then ['.'] else []) else body

def inExponents (keepPoint : Bool) (places m : Nat) (e : Int) : List Char :=
  let (ds, power) := if m = 0 then (List.replicate (places + 1) '0', 0)
    else leadingDigits (places + 1) m e
  withPoint keepPoint ds ++ writtenExponent 'e' 2 power

def dropZeros (cs : List Char) : List Char :=
  if cs.contains '.' then ((cs.reverse.dropWhile (· = '0')).dropWhile (· = '.')).reverse else cs

/-- `|m * 2 ^ e|` with so many digits, and with an exponent if that is too small or large; zeros at
the end count only if `keepZeros` is set. -/
def inDigits (keepZeros : Bool) (count m : Nat) (e : Int) : List Char :=
  let count := max count 1
  let power := if m = 0 then 0 else (leadingDigits count m e).2
  if -4 ≤ power ∧ power < count then
    let body := inPlaces keepZeros ((count : Int) - 1 - power).toNat m e
    if keepZeros then body else dropZeros body
  else
    let body := inExponents keepZeros (count - 1) m e
    if keepZeros then body
    else dropZeros (body.takeWhile (· ≠ 'e')) ++ body.dropWhile (· ≠ 'e')

def inHexadecimal (keepPoint : Bool) (places : Option Nat) (m : Nat) (e : Int) : List Char :=
  let power := if m = 0 then 0 else e + 52
  let (units, count) := match places with
    | some p =>
      if p < 13 then (divNearestEven m (Nat.pow 16 (13 - p)), p)
      else (m * Nat.pow 16 (p - 13), p)
    | none => (m, 13)
  let part := Nat.toDigits 16 (units % Nat.pow 16 count)
  let part := if count = 0 then [] else List.replicate (count - part.length) '0' ++ part
  let part := if places.isNone then (part.reverse.dropWhile (· = '0')).reverse else part
  '0' :: 'x' :: Nat.toDigits 16 (units / Nat.pow 16 count) ++
    (if part.isEmpty && !keepPoint then [] else '.' :: part) ++ writtenExponent 'p' 1 power

end TestBench.Binary64
