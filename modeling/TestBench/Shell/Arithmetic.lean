/-! Expressions over integers of 64 bits with the operators of C, in which names stand for bindings.
Operators are read by how tightly they bind; assignments change the bindings. -/
namespace TestBench.Shell

inductive Sign where
  | number (n : Int)
  | name (s : String)
  | mark (s : String)
  deriving DecidableEq, Repr

def longMarks : List String :=
  ["<<=", ">>=", "&&", "||", "<<", ">>", "<=", ">=", "==", "!=", "+=", "-=", "*=", "/=", "%=", "&=",
    "|=", "^="]

def wordCount : Nat := 0x10000000000000000

def largest : Int := 0x7fffffffffffffff

def wrap (n : Int) : Int :=
  n.bmod wordCount

/-- The value of a digit, of which letters are the later ones. -/
def digitValue (c : Char) : Nat :=
  if c.isDigit then c.toNat - '0'.toNat else c.toLower.toNat - 'a'.toNat + 10

def isDigitIn (base : Nat) (c : Char) : Bool :=
  c.isAlphanum && digitValue c < base

def numberIn (base : Nat) (cs : List Char) : Nat × List Char :=
  let digits := cs.takeWhile (isDigitIn base)
  (digits.foldl (fun n c => n * base + digitValue c) 0, cs.drop digits.length)

/-- The number that a text starts with: hexadecimal behind `0x`, octal behind another zero. -/
def leadingNumber (cs : List Char) : Nat × List Char :=
  match cs with
  | '0' :: x :: d :: rest =>
    if (x = 'x' || x = 'X') && isDigitIn 16 d then numberIn 16 (d :: rest)
    else numberIn 8 cs
  | '0' :: _ => numberIn 8 cs
  | cs => numberIn 10 cs

/-- The number that a text starts with, or the largest integer of 64 bits if it is too large. -/
def leadingInteger (cs : List Char) : Int × List Char :=
  let (n, rest) := leadingNumber cs
  (min (n : Int) largest, rest)

inductive ArithmeticFault where
  | malformed (expected : String)
  | divisionByZero
  | overflow
  | notNumber (value : String)
  deriving DecidableEq, Repr

def noOperand : ArithmeticFault := .malformed "expecting primary"

/-- Reads at most `fuel` signs; a character that is no sign is one that nothing takes. -/
def signs : Nat → List Char → List Sign
  | 0, _ => []
  | _ + 1, [] => []
  | fuel + 1, c :: cs =>
    if c = ' ' || c = '\t' || c = '\n' then signs fuel cs
    else if c.isDigit then
      let (n, rest) := leadingInteger (c :: cs)
      .number n :: signs fuel rest
    else if c.isAlpha || c = '_' then
      let word := (c :: cs).takeWhile fun d => d.isAlphanum || d = '_'
      .name (String.ofList word) :: signs fuel ((c :: cs).drop word.length)
    else
      match longMarks.find? fun m => m.toList.isPrefixOf (c :: cs) with
      | some m => .mark m :: signs fuel ((c :: cs).drop m.length)
      | none => .mark c.toString :: signs fuel cs

def operatorLevels : List (List String) :=
  [["||"], ["&&"], ["|"], ["^"], ["&"], ["==", "!="], ["<", ">", "<=", ">="], ["<<", ">>"],
    ["+", "-"], ["*", "/", "%"]]

def assigningOperators : List (String × String) :=
  [("+=", "+"), ("-=", "-"), ("*=", "*"), ("/=", "/"), ("%=", "%"), ("&=", "&"), ("|=", "|"),
    ("^=", "^"), ("<<=", "<<"), (">>=", ">>")]

/-- An expression. What is wrong with its text is a part of it, so that all that comes before that
has its value, and its effects. -/
inductive Expression where
  | number (n : Int)
  | variable (name : String)
  | unary (op : String) (operand : Expression)
  | binary (op : String) (left right : Expression)
  | conditional (condition yes no : Expression)
  | assign (name : String) (value : Expression)
  | update (op name : String) (value : Expression)
  | fault (f : ArithmeticFault)
  | beforeFault (e : Expression) (f : ArithmeticFault)
  deriving Repr

namespace Expression

def firstFault? : Expression → Option ArithmeticFault
  | .number _ | .variable _ => none
  | .unary _ e | .assign _ e | .update _ _ e => e.firstFault?
  | .binary _ a b => a.firstFault?.or b.firstFault?
  | .conditional a b c => (a.firstFault?.or b.firstFault?).or c.firstFault?
  | .fault f => some f
  | .beforeFault e f => e.firstFault?.or (some f)

mutual

def ofSigns : Nat → List Sign → Expression × List Sign
  | 0, _ => (.fault noOperand, [])
  | fuel + 1, ss =>
    match ss with
    | .name x :: .mark "=" :: rest =>
      let (e, rest) := ofSigns fuel rest
      (.assign x e, rest)
    | .name x :: .mark m :: rest =>
      match assigningOperators.lookup m with
      | some op =>
        let (e, rest) := ofSigns fuel rest
        (.update op x e, rest)
      | none => conditionalOf fuel ss
    | ss => conditionalOf fuel ss

def conditionalOf : Nat → List Sign → Expression × List Sign
  | 0, _ => (.fault noOperand, [])
  | fuel + 1, ss =>
    let (c, rest) := levelOf operatorLevels fuel ss
    match rest with
    | .mark "?" :: rest =>
      let (yes, rest) := ofSigns fuel rest
      match rest with
      | .mark ":" :: rest =>
        let (no, rest) := conditionalOf fuel rest
        (.conditional c yes no, rest)
      | _ => (.conditional c yes (.fault (.malformed "expecting ':'")), [])
    | rest => (c, rest)

/-- Reads operands that are joined by operators which bind at least as tightly as the levels
given. -/
def levelOf (levels : List (List String)) : Nat → List Sign → Expression × List Sign
  | 0, _ => (.fault noOperand, [])
  | fuel + 1, ss =>
    match levels with
    | [] => operandOf fuel ss
    | ops :: tighter =>
      let (first, rest) := levelOf tighter fuel ss
      joined ops tighter first fuel rest

/-- Reads further operands of one level; operators of a level are taken from left to right. -/
def joined (ops : List String) (tighter : List (List String)) (first : Expression) :
    Nat → List Sign → Expression × List Sign
  | 0, _ => (.fault noOperand, [])
  | fuel + 1, ss =>
    match ss with
    | .mark m :: rest =>
      if ops.contains m then
        let (second, rest) := levelOf tighter fuel rest
        joined ops tighter (.binary m first second) fuel rest
      else (first, ss)
    | ss => (first, ss)

def operandOf : Nat → List Sign → Expression × List Sign
  | 0, _ => (.fault noOperand, [])
  | fuel + 1, ss =>
    match ss with
    | .number n :: rest => (.number n, rest)
    | .name x :: rest => (.variable x, rest)
    | .mark "(" :: rest =>
      match ofSigns fuel rest with
      | (e, .mark ")" :: rest) => (e, rest)
      | (e, _) => (.beforeFault e (.malformed "expecting ')'"), [])
    | .mark m :: rest =>
      if ["+", "-", "!", "~"].contains m then
        let (e, rest) := operandOf fuel rest
        (.unary m e, rest)
      else (.fault noOperand, [])
    | [] => (.fault noOperand, [])

end

def ofText (cs : List Char) : Expression :=
  let ss := signs (cs.length + 1) cs
  let (e, rest) := ofSigns (32 * ss.length + 32) ss
  if rest.isEmpty then e else .beforeFault e (.malformed "expecting EOF")

end Expression

abbrev Bindings := List (String × String)

/-- What an expression does: it changes variables, also if it has no value in the end. -/
abbrev Arithmetic := ExceptT ArithmeticFault (StateM Bindings)

/-- The integer that a text is, with a sign or without, and with blanks around it; a text of blanks
is zero. -/
def integerText? (s : String) : Option Int :=
  let isGap (c : Char) : Bool := c = ' ' || ('\t' ≤ c && c ≤ '\r')
  let body := s.toList.dropWhile isGap
  let (negative, digits) := match body with
    | '-' :: digits => (true, digits)
    | '+' :: digits => (false, digits)
    | digits => (false, digits)
  let (n, rest) := leadingNumber digits
  let value : Int := if negative then -n else n
  if body.isEmpty then some 0
  else if digits.head?.any Char.isDigit && rest.all isGap then
    if -largest - 1 ≤ value ∧ value ≤ largest then some value else none
  else none

def ofTruth (b : Bool) : Int :=
  if b then 1 else 0

def shiftBits (n : Int) : Nat :=
  (n.emod 64).toNat

def power (bits : Nat) : Int :=
  Nat.pow 2 bits

def bitwise (f : Nat → Nat → Nat) (a b : Int) : Int :=
  wrap (f (a.emod wordCount).toNat (b.emod wordCount).toNat)

def operate (op : String) (a b : Int) : Except ArithmeticFault Int :=
  match op with
  | "+" => .ok (wrap (a + b))
  | "-" => .ok (wrap (a - b))
  | "*" => .ok (wrap (a * b))
  | "/" | "%" =>
    if b = 0 then .error .divisionByZero
    else if b = -1 ∧ a < -largest then .error .overflow
    else .ok (if op = "/" then a.tdiv b else a.tmod b)
  | "<<" => .ok (wrap (a * power (shiftBits b)))
  | ">>" => .ok (a.fdiv (power (shiftBits b)))
  | "<" => .ok (ofTruth (a < b))
  | ">" => .ok (ofTruth (b < a))
  | "<=" => .ok (ofTruth (a ≤ b))
  | ">=" => .ok (ofTruth (b ≤ a))
  | "==" => .ok (ofTruth (a = b))
  | "!=" => .ok (ofTruth (a ≠ b))
  | "&" => .ok (bitwise (· &&& ·) a b)
  | "|" => .ok (bitwise (· ||| ·) a b)
  | "^" => .ok (bitwise (· ^^^ ·) a b)
  | _ => .error noOperand

namespace Expression

def passBy (e : Expression) : Arithmetic Unit :=
  match e.firstFault? with
  | none => pure ()
  | some f => throw f

def lookUp (name : String) : Arithmetic Int := do
  match (← get).lookup name with
  | none => return 0
  | some s =>
    match integerText? s with
    | some n => return n
    | none => throw (.notNumber s)

def bind (name : String) (n : Int) : Arithmetic Int := do
  modify fun vars => (name, toString n) :: vars
  return n

def eval : Expression → Arithmetic Int
  | .number n => return n
  | .variable name => lookUp name
  | .unary op e => do
    let n ← e.eval
    return match op with
      | "-" => wrap (-n)
      | "!" => ofTruth (n = 0)
      | "~" => -n - 1
      | _ => n
  | .binary "&&" a b => do
    if (← a.eval) = 0 then
      b.passBy
      return 0
    else return ofTruth ((← b.eval) ≠ 0)
  | .binary "||" a b => do
    if (← a.eval) ≠ 0 then
      b.passBy
      return 1
    else return ofTruth ((← b.eval) ≠ 0)
  | .binary op a b => do
    let m ← a.eval
    let n ← b.eval
    liftM (operate op m n)
  | .conditional c yes no => do
    if (← c.eval) ≠ 0 then
      let n ← yes.eval
      no.passBy
      return n
    else
      yes.passBy
      no.eval
  | .assign name e => do bind name (← e.eval)
  | .update op name e => do
    let n ← e.eval
    bind name (← liftM (operate op (← lookUp name) n))
  | .fault f => throw f
  | .beforeFault e f => do
    let _ ← e.eval
    throw f

end Expression

end TestBench.Shell
