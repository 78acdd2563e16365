import TestBench.Shell.Field

/-! Patterns that texts fit: an asterisk stands for any text, a question mark for any character, and
square brackets for one of some characters. Main definitions: `Pattern.ofMarks` and `Pattern.fits`.
-/
namespace TestBench.Shell

inductive SetItem where
  | range (first last : Char)
  | kind (name : String)
  deriving DecidableEq, Repr

inductive PatternPart where
  | char (c : Char)
  | any
  | among (negated : Bool) (items : List SetItem)
  | run
  deriving DecidableEq, Repr

abbrev Pattern := List PatternPart

def characterKinds : List (String × (Char → Bool)) :=
  let isPrinted (c : Char) : Bool := ' ' ≤ c && c ≤ '~'
  let isHex (c : Char) : Bool := c.isDigit || ('a' ≤ c.toLower && c.toLower ≤ 'f')
  [("alnum", Char.isAlphanum), ("alpha", Char.isAlpha),
    ("blank", fun c => c = ' ' || c = '\t'),
    ("cntrl", fun c => c < ' ' || c = '\x7f'), ("digit", Char.isDigit),
    ("graph", fun c => isPrinted c && c ≠ ' '), ("lower", Char.isLower), ("print", isPrinted),
    ("punct", fun c => isPrinted c && c ≠ ' ' && !c.isAlphanum),
    ("space", fun c => c = ' ' || ('\t' ≤ c && c ≤ '\r')), ("upper", Char.isUpper),
    ("xdigit", isHex)]

/-- The place of a byte in the order of bytes, where those of no character of ASCII come first. -/
def byteOrder (c : Char) : Int :=
  if c.toNat < 0x80 then c.toNat else (c.toNat : Int) - 0x100

namespace SetItem

def holds (i : SetItem) (c : Char) : Bool :=
  match i with
  | .range first last => byteOrder first ≤ byteOrder c && byteOrder c ≤ byteOrder last
  | .kind name => ((characterKinds.lookup name).map (· c)).getD false

end SetItem

namespace PatternPart

def holds (p : PatternPart) (c : Char) : Bool :=
  match p with
  | .char d => c == d
  | .any | .run => true
  | .among negated items => items.any (·.holds c) != negated

end PatternPart

namespace Pattern

/-- The patterns that can stand for the rest of a text where `p` can: a run may be empty. -/
def openings : Pattern → List Pattern
  | .run :: ps => (.run :: ps) :: openings ps
  | p => [p]

/-- The patterns that can stand for what follows a character, where `p` can stand for it and what
follows. -/
def after (c : Char) (p : Pattern) : List Pattern :=
  match p with
  | [] => []
  | .run :: ps => [.run :: ps]
  | part :: ps => if part.holds c then openings ps else []

def afterAll (c : Char) (ps : List Pattern) : List Pattern :=
  ((ps.flatMap (after c)).flatMap openings).eraseDups

/-- The lengths, from `n` on, of the starts of a text that some patterns stand for. -/
def startLengthsFrom (n : Nat) (ps : List Pattern) : List Char → List Nat
  | [] => if ps.contains [] then [n] else []
  | c :: cs =>
    let more := if ps.isEmpty then [] else startLengthsFrom (n + 1) (afterAll c ps) cs
    if ps.contains [] then n :: more else more

def startLengths (p : Pattern) (cs : List Char) : List Nat :=
  startLengthsFrom 0 (openings p) cs

def fits (p : Pattern) (cs : List Char) : Bool :=
  (cs.foldl (fun ps c => afterAll c ps) (openings p)).contains []

/-- The characters of marks, each with whether it may mean something else; a backslash that may
takes this from the next one. -/
def signsOf : List Mark → List (Char × Bool)
  | .place :: ms | .splice _ :: ms | .gap :: ms => signsOf ms
  | .char '\\' false :: m :: ms | .spliced '\\' :: m :: ms =>
    match m.char? with
    | some c => (c, false) :: signsOf ms
    | none => ('\\', false) :: signsOf ms
  | .char c quoted :: ms => (c, !quoted) :: signsOf ms
  | .spliced c :: ms => (c, true) :: signsOf ms
  | [] => []

def kind? (cs : List (Char × Bool)) : Option (String × List (Char × Bool)) :=
  characterKinds.findSome? fun (name, _) =>
    let written := (":" ++ name ++ ":]").toList.map (·, true)
    if written.isPrefixOf cs then some (name, cs.drop written.length) else none

/-- The items up to a closing bracket, at most `fuel` of them, and what follows it. -/
def itemsOf : Nat → List (Char × Bool) → Option (List SetItem × List (Char × Bool))
  | 0, _ | _ + 1, [] => none
  | fuel + 1, (c, active) :: cs =>
    let (item, rest) : SetItem × List (Char × Bool) :=
      match if active && c = '[' then kind? cs else none with
      | some (name, rest) => (.kind name, rest)
      | none =>
        match cs with
        | ('-', true) :: (last, lastActive) :: rest =>
          if last = ']' && lastActive then (.range c c, cs) else (.range c last, rest)
        | _ => (.range c c, cs)
    match rest with
    | (']', true) :: rest => some ([item], rest)
    | rest => (itemsOf fuel rest).map fun (items, rest) => (item :: items, rest)

def bracketed? (cs : List (Char × Bool)) : Option (PatternPart × List (Char × Bool)) :=
  match cs with
  | ('!', true) :: cs =>
    (itemsOf cs.length cs).map fun (items, rest) => (.among true items, rest)
  | cs => (itemsOf cs.length cs).map fun (items, rest) => (.among false items, rest)

def ofSigns : Nat → List (Char × Bool) → Pattern
  | 0, _ | _ + 1, [] => []
  | fuel + 1, (c, active) :: cs =>
    if !active then .char c :: ofSigns fuel cs
    else if c = '*' then .run :: ofSigns fuel cs
    else if c = '?' then .any :: ofSigns fuel cs
    else
      match if c = '[' then bracketed? cs else none with
      | some (part, rest) => part :: ofSigns fuel rest
      | none => .char c :: ofSigns fuel cs

def ofMarks (marks : List Mark) : Pattern :=
  ofSigns (signsOf marks).length (signsOf marks)

def cutStart (p : Pattern) (longest : Bool) (cs : List Char) : List Char :=
  let lengths := p.startLengths cs
  cs.drop (((if longest then lengths.getLast? else lengths.head?)).getD 0)

def cutEnd (p : Pattern) (longest : Bool) (cs : List Char) : List Char :=
  (cutStart p.reverse longest cs.reverse).reverse

end Pattern

end TestBench.Shell
