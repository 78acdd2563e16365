import TestBench.Text.Half
import TestBench.Text.Numeral
import TestBench.Yaml.Character
import TestBench.Yaml.Flaw

/-! Between single quotes only the quote itself has to be written twice. Between double quotes a
backslash introduces an escape. In both, the end of a line with the blanks around it stands for one
space, or for the empty lines that follow it. -/
namespace TestBench.Yaml

def escapes : List (Char × Char) :=
  [('0', '\x00'), ('a', '\x07'), ('b', '\x08'), ('t', '\t'), ('\t', '\t'), ('n', '\n'),
    ('v', '\x0b'), ('f', '\x0c'), ('r', '\r'), ('e', '\x1b'), (' ', ' '), ('\x22', '\x22'),
    ('\\', '\\'), ('/', '/'), ('N', '\x85'), ('_', '\xa0'), ('L', '\u2028'), ('P', '\u2029')]

def escapeWidth : Char → Option Nat
  | 'x' => some 2
  | 'u' => some 4
  | 'U' => some 8
  | _ => none

def charOfNumber (n : Nat) : Scan Char :=
  if n ≤ 0x10FFFF then .ok (Text.charOfNumber n)
  else if n < 0x80000000 then .error (.fault .noCharacter)
  else .error (.fault .hugeNumber)

/-- The character that a number of hexadecimal digits stands for, and what follows them. -/
def numberedChar (width : Nat) (cs : List Char) : Scan (Char × List Char) :=
  match (cs.take width).mapM fun c => (Text.digitIn? 16 c).filter fun _ => c.toNat < 0x80 with
  | none => .error .invalid
  | some digits =>
    if digits.length < width then .error .ended
    else do return (← charOfNumber (Text.ofDigits 16 digits), cs.drop width)

/-- The ends of lines that follow one, with the blanks before and between them left out, and what
comes then. No document may begin or end there. -/
def emptyLines (atStart : Bool) (cs : List Char) : Scan (List Char × List Char) :=
  if atStart && marksDocument cs then .error .invalid
  else
    match cs with
    | [] => .ok ([], [])
    | c :: rest =>
      if c = ' ' || c = '\t' then emptyLines false rest
      else if isBreak c then do
        let (breaks, rest) ← emptyLines true rest
        return (breakChar c :: breaks, rest)
      else .ok ([], c :: rest)

/-- What the end of a line stands for that `breaks` more follow. -/
def foldedBreak (c : Char) (breaks : List Char) : List Char :=
  if breakChar c ≠ '\n' then breakChar c :: breaks
  else if breaks.isEmpty then [' '] else breaks

def readEscape (cs : List Char) : Scan (List Char × List Char) :=
  match cs with
  | [] => .error .ended
  | c :: rest =>
    match escapes.lookup c, escapeWidth c with
    | some e, _ => .ok ([e], rest)
    | none, some width => do
      let (e, rest) ← numberedChar width rest
      return ([e], rest)
    | none, none => if isBreak c then emptyLines true rest else .error .invalid

/-- Reads blanks inside quotes, the first character being one. -/
def readGap (cs : List Char) : Scan (List Char × List Char) :=
  let blanks := cs.takeWhile fun c => c = ' ' || c = '\t'
  match cs.drop blanks.length with
  | [] => .error .ended
  | c :: rest =>
    if isBreak c then do
      let (breaks, rest) ← emptyLines true rest
      return (foldedBreak c breaks, rest)
    else .ok (blanks, c :: rest)

/-- Reads the next part of a quoted scalar; none at the closing quote. -/
def readQuotedPart (double : Bool) (cs : List Char) :
    Scan (Option (List Char) × List Char) :=
  match cs with
  | [] => .error .ended
  | c :: rest =>
    if isGap c then (readGap cs).map fun (part, rest) => (some part, rest)
    else if double then
      if c = '\x22' then .ok (none, rest)
      else if c = '\\' then (readEscape rest).map fun (part, rest) => (some part, rest)
      else .ok (some [c], rest)
    else if c = '\x27' then
      match rest with
      | '\x27' :: rest => .ok (some ['\x27'], rest)
      | _ => .ok (none, rest)
    else .ok (some [c], rest)

def readQuotedParts (double : Bool) : Nat → List Char → Scan (List Char × List Char)
  | 0, _ => .error .ended
  | fuel + 1, cs => do
    match ← readQuotedPart double cs with
    | (none, rest) => return ([], rest)
    | (some part, rest) =>
      let (text, rest) ← readQuotedParts double fuel rest
      return (part ++ text, rest)

def readQuoted (double : Bool) (cs : List Char) : Scan (List Char × List Char) :=
  readQuotedParts double (cs.length + 1) cs

end TestBench.Yaml
