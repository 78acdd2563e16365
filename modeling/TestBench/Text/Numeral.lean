import TestBench.Text.Blank
import TestBench.Text.Digit

/-! A numeral is a sign, if any, and digits in which single underscores may stand between two
digits. The digits may be of any script; blanks around the numeral do not count. -/
namespace TestBench.Text

/-- A blank that may stand around a numeral: all but the four separator controls. -/
def isNumeralBlank (c : Char) : Bool :=
  isBlank c && !(0x1C ≤ c.toNat && c.toNat ≤ 0x1F)

/-- The value of a digit in bases up to sixteen; the letters are ASCII letters. -/
def digitIn? (base : Nat) (c : Char) : Option Nat :=
  let value : Option Nat :=
    if c.isLower then some (c.toNat - 'a'.toNat + 10)
    else if c.isUpper then some (c.toNat - 'A'.toNat + 10)
    else digit? c
  value.filter (· < base)

/-- The digits after a first one, single underscores between them left out; none if anything else
stands there. -/
def digitsAfter? (base : Nat) : List Char → Option (List Nat)
  | [] => some []
  | '_' :: c :: cs => do return (← digitIn? base c) :: (← digitsAfter? base cs)
  | c :: cs => do return (← digitIn? base c) :: (← digitsAfter? base cs)

def digits? (base : Nat) : List Char → Option (List Nat)
  | [] => none
  | c :: cs => do return (← digitIn? base c) :: (← digitsAfter? base cs)

def ofDigits (base : Nat) (digits : List Nat) : Nat :=
  digits.foldl (fun n d => n * base + d) 0

def splitSign : List Char → Bool × List Char
  | '-' :: cs => (true, cs)
  | '+' :: cs => (false, cs)
  | cs => (false, cs)

def signed (negative : Bool) (n : Nat) : Int :=
  if negative then -(n : Int) else n

def trimNumeral (cs : List Char) : List Char :=
  ((cs.dropWhile isNumeralBlank).reverse.dropWhile isNumeralBlank).reverse

def baseLetters (base : Nat) : List Char :=
  if base = 16 then ['x', 'X'] else if base = 8 then ['o', 'O'] else if base = 2 then ['b', 'B']
  else []

/-- The numeral without an announcement of its base, and without the underscore that may follow
it. -/
def dropBase (base : Nat) : List Char → List Char
  | '0' :: c :: '_' :: cs => if (baseLetters base).contains c then cs else '0' :: c :: '_' :: cs
  | '0' :: c :: cs => if (baseLetters base).contains c then cs else '0' :: c :: cs
  | cs => cs

def integer? (base : Nat) (cs : List Char) : Option Int :=
  let (negative, body) := splitSign (trimNumeral cs)
  (digits? base (dropBase base body)).map fun ds => signed negative (ofDigits base ds)

def digitLimit : Nat := 4300

def digitCount (cs : List Char) : Nat :=
  ((digits? 10 (splitSign (trimNumeral cs)).2).getD []).length

end TestBench.Text
