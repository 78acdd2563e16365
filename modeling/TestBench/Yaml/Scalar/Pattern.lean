import TestBench.Yaml.Scalar.Timestamp

/-! Which texts write truth values, numbers, dates and the like when they stand without quotes. A
line feed at the end of a text does not count. -/
namespace TestBench.Yaml.Pattern

def chop (cs : List Char) : List Char :=
  if cs.getLast? = some '\n' then cs.dropLast else cs

def isOneOf (words : List String) (cs : List Char) : Bool :=
  words.contains (String.ofList (chop cs))

def isBool (cs : List Char) : Bool :=
  isOneOf ["yes", "Yes", "YES", "no", "No", "NO", "true", "True", "TRUE", "false", "False", "FALSE",
    "on", "On", "ON", "off", "Off", "OFF"] cs

def isNull (cs : List Char) : Bool :=
  cs.isEmpty || (isOneOf ["~", "null", "Null", "NULL"] cs)

def isMerge (cs : List Char) : Bool := isOneOf ["<<"] cs

def isDefault (cs : List Char) : Bool := isOneOf ["="] cs

def isIndicator (cs : List Char) : Bool := isOneOf ["!", "&", "*"] cs

def isTimestamp (cs : List Char) : Bool := Timestamp.isPlain cs

def dropSign : List Char → List Char
  | '+' :: cs => cs
  | '-' :: cs => cs
  | cs => cs

def isDigitOf (base : Nat) (c : Char) : Bool :=
  c = '_' || (match Text.asciiDigit? c with
    | some d => decide (d < base)
    | none => base = 16 && ['a', 'b', 'c', 'd', 'e', 'f'].contains c.toLower)

def isDigits (base : Nat) (cs : List Char) : Bool :=
  !cs.isEmpty && cs.all (isDigitOf base)

def isNumeral (cs : List Char) : Bool :=
  cs.head?.any Char.isDigit && cs.all (isDigitOf 10)

def splitColons : List Char → List (List Char)
  | [] => [[]]
  | c :: cs =>
    if c = ':' then [] :: splitColons cs
    else
      match splitColons cs with
      | [] => [[c]]
      | part :: parts => (c :: part) :: parts

/-- Whether a text is a number below sixty of one or two digits. -/
def isSixtieth : List Char → Bool
  | [a] => a.isDigit
  | [a, b] => a.isDigit && a < '6' && b.isDigit
  | _ => false

/-- Whether parts form a number in base sixty: at least two, the first any numeral. -/
def isBaseSixty : List (List Char) → Bool
  | first :: second :: rest => isNumeral first && (second :: rest).all isSixtieth
  | _ => false

def isInt (cs : List Char) : Bool :=
  match dropSign (chop cs) with
  | '0' :: 'b' :: digits => isDigits 2 digits
  | '0' :: 'x' :: digits => isDigits 16 digits
  | '0' :: digits => digits.isEmpty || isDigits 8 digits
  | cs => isNumeral cs || isBaseSixty (splitColons cs)

def isExponent : List Char → Bool
  | [] => true
  | e :: sign :: digits =>
    (e = 'e' || e = 'E') && (sign = '+' || sign = '-') && !digits.isEmpty && digits.all Char.isDigit
  | _ => false

def isFraction (cs : List Char) : Bool :=
  isExponent (cs.dropWhile (isDigitOf 10))

/-- Whether a text is a number in base sixty with a point at or near its end. -/
def isPointedBaseSixty (cs : List Char) : Bool :=
  match cs.dropWhile (· ≠ '.') with
  | '.' :: fraction =>
    isBaseSixty (splitColons (cs.takeWhile (· ≠ '.'))) && fraction.all (isDigitOf 10)
  | _ => false

def isFloat (cs : List Char) : Bool :=
  let cs := chop cs
  let body := dropSign cs
  isOneOf [".inf", ".Inf", ".INF"] body || isOneOf [".nan", ".NaN", ".NAN"] cs ||
    isPointedBaseSixty body ||
    (match body.dropWhile (isDigitOf 10) with
    | '.' :: fraction =>
      let whole := body.takeWhile (isDigitOf 10)
      if whole.isEmpty then
        body.length = cs.length && fraction.head?.any Char.isDigit && isFraction fraction
      else isNumeral whole && isFraction fraction
    | _ => false)

end TestBench.Yaml.Pattern
