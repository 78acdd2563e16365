import TestBench.Text.Base64
import TestBench.Text.LowerCase
import TestBench.Value.Integer
import TestBench.Yaml.Tag

/-! What the text of a scalar stands for under its tag. A tag that was found by the form of the text
mostly fits; a tag that was given may not, and then the text is at fault. -/
namespace TestBench.Yaml

def dropUnderscores (cs : List Char) : List Char :=
  cs.filter (· ≠ '_')

/-- The sign that a number starts with, true for minus, and the rest; a number is not empty, with a
sign or without. -/
def splitNumber (cs : List Char) : Except Fault (Bool × List Char) :=
  if cs.isEmpty then .error .indexOutOfRange else .ok (Text.splitSign cs)

def baseInteger (base : Nat) (cs : List Char) : Except Fault Int :=
  match Text.integer? base cs with
  | some n => .ok n
  | none => .error (.notInteger base (Text.quoted (String.ofList cs)))

def decimalInteger (cs : List Char) : Except Fault Int :=
  readInteger cs (Text.quoted (String.ofList cs))

def unsignedInteger (cs : List Char) : Except Fault Int :=
  match cs with
  | [] => .error .indexOutOfRange
  | ['0'] => .ok 0
  | '0' :: 'b' :: digits => baseInteger 2 digits
  | '0' :: 'x' :: digits => baseInteger 16 digits
  | '0' :: digits => baseInteger 8 ('0' :: digits)
  | cs =>
    if cs.contains ':' then do
      let parts ← (Pattern.splitColons cs).mapM decimalInteger
      return parts.foldl (fun n d => n * 60 + d) 0
    else decimalInteger cs

def integerOfText (cs : List Char) : Except Fault Int := do
  let (negative, body) ← splitNumber (dropUnderscores cs)
  let n ← unsignedInteger body
  return if negative then -n else n

def decimalFloat (cs : List Char) : Except Fault Binary64 :=
  match Binary64.ofText? cs with
  | some x => .ok x
  | none => .error (.notDecimal (Text.quoted (String.ofList cs)))

/-- The number whose parts in base sixty are given, the last part first; `base` is the value of a
one in the first of them, which has to be in the range of these numbers. -/
def sumSixtieths (base : Nat) (sum : Binary64) : List Binary64 → Except Fault Binary64
  | [] => .ok sum
  | x :: xs =>
    match Binary64.ofInt base with
    | .infinite _ => .error .beyondFloat
    | one => sumSixtieths (base * 60) (sum.add (x.mul one)) xs

def unsignedFloat (cs : List Char) : Except Fault Binary64 :=
  if cs = ['.', 'i', 'n', 'f'] then .ok (.infinite false)
  else if cs = ['.', 'n', 'a', 'n'] then .ok .nan
  else if cs.contains ':' then do
    let parts ← (Pattern.splitColons cs).mapM decimalFloat
    sumSixtieths 1 Binary64.zero parts.reverse
  else decimalFloat cs

def floatOfText (cs : List Char) : Except Fault Binary64 := do
  let (negative, body) ← splitNumber (Text.lower (dropUnderscores cs))
  let x ← unsignedFloat body
  return if negative then x.neg else x

def isNotNumber (cs : List Char) : Bool :=
  (Text.splitSign (Text.lower (dropUnderscores cs))).2 = ['.', 'n', 'a', 'n']

def truthWords : List (String × Bool) :=
  [("yes", true), ("no", false), ("true", true), ("false", false), ("on", true), ("off", false)]

def truthOfText (cs : List Char) : Except Fault Bool :=
  let word := String.ofList (Text.lower cs)
  match truthWords.lookup word with
  | some b => .ok b
  | none => .error (.missingKey (Text.quoted word))

def timestampOfText (cs : List Char) : Except Fault Value :=
  match Timestamp.ofText? cs with
  | none => .error (.noAttribute "NoneType" "groupdict")
  | some t =>
    let made : Except CalendarFault Value :=
      match t.time with
      | none => (Date.make t.year t.month t.day).map Value.date
      | some time => (t.moment time).map Value.moment
    match made with
    | .ok v => .ok v
    | .error c => .error (.calendar c)

def bytesOfText (cs : List Char) : Except Fault (List UInt8) :=
  match if cs.all (·.toNat < 0x80) then Text.base64? cs else none with
  | some bs => .ok bs
  | none => .error .invalidYaml

/-- What a text stands for under a tag that is not for collections. -/
def valueOfText (tag : Tag) (cs : List Char) : Except Fault Value :=
  match tag with
  | .null => .ok .null
  | .bool => (truthOfText cs).map Value.bool
  | .int => (integerOfText cs).map Value.int
  | .float => (floatOfText cs).map Value.float
  | .text => .ok (.text (String.ofList cs))
  | .binary => (bytesOfText cs).map Value.bytes
  | .timestamp => timestampOfText cs
  | _ => .error .invalidYaml

end TestBench.Yaml
