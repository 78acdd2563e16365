import TestBench.Number.Formatted
import TestBench.Shell.Arithmetic
import TestBench.Shell.ByteText

/-! The escapes that a text may hold, and the formats that arguments are written in. A format is
used again as long as there are arguments left. -/
namespace TestBench.Shell

def letterEscapes : List (Char × Char) :=
  [('a', '\x07'), ('b', '\x08'), ('e', '\x1b'), ('f', '\x0c'), ('n', '\n'), ('r', '\r'),
    ('t', '\t'), ('v', '\x0b'), ('\\', '\\')]

def isOctal (c : Char) : Bool :=
  '0' ≤ c && c ≤ '7'

/-- What an escape stands for, behind its backslash: a letter, a byte in up to three octal digits,
or else the backslash itself. -/
def escapeStart (cs : List Char) : Char × List Char :=
  match cs with
  | [] => ('\\', [])
  | c :: rest =>
    match letterEscapes.lookup c with
    | some d => (d, rest)
    | none =>
      let digits := (cs.take 3).takeWhile isOctal
      if digits.isEmpty then ('\\', cs)
      else
        let n := digits.foldl (fun n c => n * 8 + (c.toNat - '0'.toNat)) 0
        (Char.ofNat (n % 256), cs.drop digits.length)

def dropOctalZero (cs : List Char) : List Char :=
  match cs with
  | '0' :: c :: rest => if isOctal c then c :: rest else cs
  | cs => cs

/-- A text with its escapes, at most `fuel` parts of it, behind what has been written, of which the
last character comes first; and whether the output ends with it. -/
def expandEscapes (before : List Char) : Nat → List Char → List Char × Bool
  | 0, _ => (before.reverse, false)
  | _ + 1, [] => (before.reverse, false)
  | fuel + 1, c :: cs =>
    if c ≠ '\\' then expandEscapes (c :: before) fuel cs
    else if cs.head? = some 'c' then (before.reverse, true)
    else
      let (d, rest) := escapeStart (dropOctalZero cs)
      expandEscapes (d :: before) fuel rest

def escapedText (s : String) : List Char × Bool :=
  expandEscapes [] (s.length + 1) s.toList

def echoed (words : List String) : String :=
  let (words, ending) : List String × List Char := match words with
    | "-n" :: words => (words, [])
    | words => (words, ['\n'])
  let (text, ended) := escapedText (" ".intercalate words)
  String.ofList (if ended then text else text ++ ending)

/-- A number of a directive: it stands there, or is taken from the arguments. -/
inductive Measure where
  | fixed (n : Nat)
  | given
  deriving DecidableEq, Repr

structure Directive where
  text : List Char
  flags : List Char
  width : Measure
  precision : Option Measure
  conversion : Char
  deriving Repr

structure Layout where
  leftAligned : Bool := false
  zeros : Bool := false
  plus : Bool := false
  space : Bool := false
  alternate : Bool := false
  width : Nat := 0
  precision : Option Nat := none

namespace Directive

def measure (cs : List Char) : Measure × List Char :=
  match cs with
  | '*' :: rest => (.given, rest)
  | cs =>
    let digits := cs.takeWhile Char.isDigit
    (.fixed (digits.foldl (fun n c => n * 10 + (c.toNat - '0'.toNat)) 0), cs.drop digits.length)

def ofText? (cs : List Char) : Option (Directive × List Char) :=
  let flags := cs.takeWhile fun c => ['#', '-', '+', ' ', '0'].contains c
  let (width, rest) := measure (cs.drop flags.length)
  let (precision, rest) := match rest with
    | '.' :: rest =>
      let (m, rest) := measure rest
      (some m, rest)
    | rest => (none, rest)
  match rest with
  | [] => none
  | c :: rest =>
    some (⟨'%' :: cs.take (cs.length - rest.length), flags, width, precision, c⟩, rest)

end Directive

namespace Layout

def pad (l : Layout) (text : List Char) : List Char :=
  let fill := List.replicate (l.width - text.length) ' '
  if l.leftAligned then text ++ fill else fill ++ text

def sign (l : Layout) (negative : Bool) : List Char :=
  if negative then ['-'] else if l.plus then ['+'] else if l.space then [' '] else []

/-- Digits behind a sign and marks, with the zeros that fill the width if there have to be. -/
def padDigits (l : Layout) (lead digits : List Char) : List Char :=
  let zeros := if l.zeros && !l.leftAligned then l.width - lead.length - digits.length else 0
  l.pad (lead ++ List.replicate zeros '0' ++ digits)

/-- Digits of a whole number with the marks before them. A precision is the least number of digits,
and none are written for zero if it is zero. -/
def padWhole (l : Layout) (lead digits : List Char) : List Char :=
  match l.precision with
  | some p =>
    let digits := if p = 0 && digits == ['0'] then [] else digits
    { l with zeros := false }.padDigits lead
      (List.replicate (p - digits.length) '0' ++ digits)
  | none => l.padDigits lead digits

def whole (l : Layout) (conversion : Char) (n : Int) : List Char :=
  let unsigned := (n.emod wordCount).toNat
  let marked (mark : List Char) : List Char := if l.alternate && unsigned ≠ 0 then mark else []
  match conversion with
  | 'o' =>
    let digits := Nat.toDigits 8 unsigned
    let l := if l.alternate && digits.head? ≠ some '0' &&
        (l.precision.getD 0) ≤ digits.length then { l with precision := some (digits.length + 1) }
      else if l.alternate && unsigned = 0 && l.precision = some 0 then { l with precision := none }
      else l
    if l.alternate && l.zeros && !l.leftAligned && l.precision = some (digits.length + 1) then
      { l with precision := none }.padDigits [] ('0' :: digits)
    else l.padWhole [] digits
  | 'x' => l.padWhole (marked ['0', 'x']) (Nat.toDigits 16 unsigned)
  | 'X' => l.padWhole (marked ['0', 'X']) ((Nat.toDigits 16 unsigned).map Char.toUpper)
  | 'u' => l.padWhole [] (Nat.toDigits 10 unsigned)
  | _ => l.padWhole (l.sign (n < 0)) (Nat.toDigits 10 n.natAbs)

/-- A floating-point number in the form of a conversion; `negative` is the sign that it was read
with, which one that is no number keeps. -/
def real (l : Layout) (conversion : Char) (negative : Bool) (x : Binary64) : List Char :=
  let lead := l.sign negative
  let upper (cs : List Char) : List Char := if conversion.isUpper then cs.map Char.toUpper else cs
  match x with
  | .nan => l.pad (lead ++ upper "nan".toList)
  | .infinite _ => l.pad (lead ++ upper "inf".toList)
  | .finite _ m e =>
    let places := l.precision.getD 6
    match conversion.toLower with
    | 'f' => l.padDigits lead (Binary64.inPlaces l.alternate places m e)
    | 'e' => l.padDigits lead (upper (Binary64.inExponents l.alternate places m e))
    | 'g' => l.padDigits lead (upper (Binary64.inDigits l.alternate places m e))
    | _ =>
      let digits := upper (Binary64.inHexadecimal l.alternate l.precision m e)
      l.padDigits (lead ++ digits.take 2) (digits.drop 2)

end Layout

/-- What came of writing arguments: a text, what is wrong with arguments, the arguments left, and
whether the output ends here, perhaps because the format is none. -/
structure Written where
  text : List Char := []
  complaints : List String := []
  left : List String
  ended : Bool := false
  malformed : Bool := false

/-- What is wrong with an argument behind which so much is left when its number has been read. -/
def conversionComplaints (s : String) (isNumber : Bool) (rest : List Char) : List String :=
  if s.isEmpty then []
  else if !isNumber then [s ++ ": expected numeric value"]
  else if !rest.isEmpty then [s ++ ": not completely converted"]
  else []

def rangeComplaint (s : String) : String :=
  s ++ ": Numerical result out of range"

def quotedNumber? (s : String) : Option Nat :=
  match s.toList with
  | q :: cs => if q = '\x27' || q = '\x22' then some ((cs.head?.map Char.toNat).getD 0) else none
  | [] => none

/-- The number that an argument starts with, within bounds, and what is wrong with it: it may start
with none, have something else behind it, or be out of the bounds. -/
def argumentNumber (least most : Int) (s : String) : Int × List String :=
  match quotedNumber? s with
  | some n => (n, [])
  | none =>
    let (negative, digits) :=
      match s.toList.dropWhile fun c => c = ' ' || ('\t' ≤ c && c ≤ '\r') with
      | '-' :: digits => (true, digits)
      | '+' :: digits => (false, digits)
      | digits => (false, digits)
    let (n, rest) := leadingNumber digits
    let n : Int := if negative then -n else n
    if !digits.head?.any Char.isDigit then (0, conversionComplaints s false [])
    else
      (max least (min n most),
        if !rest.isEmpty then conversionComplaints s true rest
        else if n < least ∨ most < n then [rangeComplaint s]
        else [])

def argumentReal (s : String) : Bool × Binary64 × List String :=
  match quotedNumber? s with
  | some n => (false, Binary64.ofInt n, [])
  | none =>
    match Binary64.start? s.toList with
    | none => (false, Binary64.zero, conversionComplaints s false [])
    | some start =>
      (start.isNegative, start.value,
        if start.outOfRange && start.rest.isEmpty then [rangeComplaint s]
        else conversionComplaints s true start.rest)

/-- The layout of a directive with the measures that it takes from the arguments, what is wrong with
these, and the arguments left. -/
def layoutOf (d : Directive) (arguments : List String) : Layout × List String × List String :=
  let small (arguments : List String) : Int × List String × List String :=
    let (n, complaints) := argumentNumber (-largest - 1) largest (arguments.headD "")
    (n.bmod 0x100000000, complaints, arguments.drop 1)
  let l : Layout := {
    leftAligned := d.flags.contains '-', zeros := d.flags.contains '0'
    plus := d.flags.contains '+', space := d.flags.contains ' '
    alternate := d.flags.contains '#' }
  let (l, complaints, arguments) := match d.width with
    | .fixed n => ({ l with width := n }, [], arguments)
    | .given =>
      let (n, complaints, left) := small arguments
      ({ l with width := n.natAbs, leftAligned := l.leftAligned || n < 0 }, complaints, left)
  match d.precision with
  | none => (l, complaints, arguments)
  | some (.fixed n) => ({ l with precision := some n }, complaints, arguments)
  | some .given =>
    let (n, more, left) := small arguments
    ({ l with precision := if n < 0 then none else some n.toNat }, complaints ++ more, left)

def writeArgument (d : Directive) (arguments : List String) : Option Written :=
  let (l, measured, arguments) := layoutOf d arguments
  let argument := arguments.headD ""
  let left := arguments.drop 1
  let cut (text : List Char) := (l.precision.map fun p => text.take p).getD text
  match d.conversion with
  | 's' => some { text := l.pad (cut argument.toList), complaints := measured, left }
  | 'b' =>
    let (text, ended) := escapedText argument
    some { text := l.pad (cut text), complaints := measured, left, ended }
  | 'c' =>
    some { text := l.pad [argument.toList.headD '\x00'], complaints := measured, left }
  | 'd' | 'i' =>
    let (n, complaints) := argumentNumber (-largest - 1) largest argument
    some { text := l.whole 'd' n, complaints := measured ++ complaints, left }
  | 'u' | 'o' | 'x' | 'X' =>
    let (n, complaints) := argumentNumber (1 - wordCount) (wordCount - 1) argument
    some { text := l.whole d.conversion n, complaints := measured ++ complaints, left }
  | c =>
    if ['a', 'e', 'f', 'g'].contains c.toLower then
      let (negative, x, complaints) := argumentReal argument
      some { text := l.real c negative x, complaints := measured ++ complaints, left }
    else none

/-- Writes a format once, at most `fuel` parts of it, behind what has been written; the last
character of that comes first. -/
def writeFormat (before : List Char) (complaints : List String) :
    Nat → List Char → List String → Written
  | 0, _, arguments | _ + 1, [], arguments =>
    { text := before.reverse, complaints, left := arguments }
  | fuel + 1, c :: cs, arguments =>
    if c = '\\' then
      let (d, rest) := escapeStart cs
      writeFormat (d :: before) complaints fuel rest arguments
    else if c ≠ '%' then writeFormat (c :: before) complaints fuel cs arguments
    else if cs.head? = some '%' then
      writeFormat (c :: before) complaints fuel (cs.drop 1) arguments
    else
      let refused (why : String) : Written :=
        { text := before.reverse, complaints := complaints ++ [why], left := arguments
          ended := true, malformed := true }
      match Directive.ofText? cs with
      | none => refused "missing format character"
      | some (d, rest) =>
        match writeArgument d arguments with
        | none => refused (String.ofList d.text ++ ": invalid directive")
        | some w =>
          let before := w.text.reverse ++ before
          if w.ended then
            { w with text := before.reverse, complaints := complaints ++ w.complaints }
          else writeFormat before (complaints ++ w.complaints) fuel rest w.left

/-- Writes a format as often as there are arguments for it, at most `fuel` times. -/
def writeFormats (format : List Char) : Nat → List String → Written
  | 0, arguments => { left := arguments }
  | fuel + 1, arguments =>
    let w := writeFormat [] [] (format.length + 1) format arguments
    if w.ended || w.left.isEmpty || w.left.length = arguments.length then w
    else
      let more := writeFormats format fuel w.left
      { more with text := w.text ++ more.text, complaints := w.complaints ++ more.complaints }

def formatted (format : String) (arguments : List String) : Written :=
  writeFormats format.toList (arguments.length + 1) arguments

end TestBench.Shell
