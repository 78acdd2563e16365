import TestBench.Yaml.Scalar.Block
import TestBench.Yaml.Scalar.Plain
import TestBench.Yaml.Scalar.Quoted
import TestBench.Yaml.Source
import TestBench.Yaml.Token.Property

/-! A text is read from left to right, and no further than the tokens that are asked for need it.
What may turn out to be a key, because a colon follows it on the same line, is remembered by its
place among the tokens; when the colon comes, the sign of the key, and the start of the block that
it opens, are put in front of it. So a token can be given out once nothing can be put in front of it
any more. -/
namespace TestBench.Yaml

structure KeyPlace where
  position : Nat
  /-- Whether a colon has to come, because nothing but a key can stand there. -/
  required : Bool
  index : Nat
  line : Nat
  column : Nat
  deriving DecidableEq, Repr

def keyLimit : Nat := 1024

structure TokenStream where
  size : Nat
  cursor : Cursor
  /-- The fault that keeps the text from being read further than what follows the cursor. -/
  stop : Option Fault := none
  taken : Nat := 0
  tokens : List Token := []
  ended : Bool := false
  blocks : List Nat := []
  /-- Where a key may have started: outside brackets, and inside each open one, the innermost
  first. -/
  keys : List (Option KeyPlace) := [none]
  keyAllowed : Bool := true

namespace TokenStream

def inBrackets (x : TokenStream) : Bool :=
  1 < x.keys.length

def indent? (x : TokenStream) : Option Nat :=
  x.blocks.head?

def isDeeper (x : TokenStream) (column : Nat) : Bool :=
  match x.indent? with
  | none => true
  | some i => i < column

def emit (x : TokenStream) (t : Token) : TokenStream :=
  { x with tokens := x.tokens ++ [t] }

def insert (x : TokenStream) (position : Nat) (t : Token) : TokenStream :=
  let waiting := position - x.taken
  { x with tokens := x.tokens.take waiting ++ t :: x.tokens.drop waiting }

def accept (x : TokenStream) (t : Token) (rest : List Char) : TokenStream :=
  { x.emit t with cursor := x.cursor.moveTo rest }

def closeBlocks (x : TokenStream) (column : Nat) : List Nat → TokenStream
  | [] => { x with blocks := [] }
  | i :: outer =>
    if column < i then (x.emit .blockEnd).closeBlocks column outer
    else { x with blocks := i :: outer }

/-- Ends the blocks that end here. Inside brackets indentation means nothing. -/
def unwind (x : TokenStream) (column : Nat) : TokenStream :=
  if x.inBrackets then x else x.closeBlocks column x.blocks

def unwindAll (x : TokenStream) : TokenStream :=
  if x.inBrackets then x
  else { x with tokens := x.tokens ++ x.blocks.map (fun _ => .blockEnd), blocks := [] }

def dropKey (k : Option KeyPlace) : Scan (Option KeyPlace) :=
  match k with
  | some k => if k.required then .error .invalid else .ok none
  | none => .ok none

/-- Whether a key that started at a place cannot be ended here any more. -/
def isStale (c : Cursor) (k : KeyPlace) : Bool :=
  k.line ≠ c.line || keyLimit < c.index - k.index

def dropStaleKeys (x : TokenStream) : Scan TokenStream := do
  let keys ← x.keys.mapM fun k =>
    if k.any (isStale x.cursor) then dropKey k else pure k
  return { x with keys }

def forgetKey (x : TokenStream) : Scan TokenStream :=
  match x.keys with
  | [] => .ok x
  | k :: outer => do return { x with keys := (← dropKey k) :: outer }

def rememberKey (x : TokenStream) : Scan TokenStream :=
  if x.keyAllowed then do
    let x ← x.forgetKey
    let c := x.cursor
    let required := !x.inBrackets && x.indent? == some c.column
    let place : KeyPlace :=
      ⟨x.taken + x.tokens.length, required, c.index, c.line, c.column⟩
    return { x with keys := some place :: x.keys.drop 1 }
  else .ok x

/-- Starts a block here if the column is deeper than that of the open one. -/
def openBlock (x : TokenStream) (start : Token) : TokenStream :=
  if x.isDeeper x.cursor.column then
    { x.emit start with blocks := x.cursor.column :: x.blocks }
  else x

/-- Passes spaces, comments and ends of lines; behind the end of a line outside brackets a key may
start. -/
def passGap : Nat → TokenStream → TokenStream
  | 0, x => x
  | fuel + 1, x =>
    match dropComment x.cursor.rest with
    | [] => { x with cursor := x.cursor.moveTo [] }
    | c :: rest =>
      if isBreak c then
        passGap fuel { x with
          cursor := x.cursor.moveTo rest
          keyAllowed := x.keyAllowed || !x.inBrackets }
      else { x with cursor := x.cursor.moveTo (c :: rest) }

def passMark (x : TokenStream) : TokenStream :=
  if x.cursor.index = 0 ∧ x.cursor.rest.head? = some '\ufeff' then
    { x with cursor := x.cursor.next }
  else x

def readMark (x : TokenStream) (t : Token) (rest : List Char) : Scan TokenStream := do
  let x ← x.unwindAll.forgetKey
  return { x.accept t rest with keyAllowed := false }

def readOpening (x : TokenStream) (t : Token) (rest : List Char) : Scan TokenStream := do
  let x ← x.rememberKey
  return { x.accept t rest with keys := none :: x.keys, keyAllowed := true }

def readClosing (x : TokenStream) (t : Token) (rest : List Char) : Scan TokenStream := do
  if !x.inBrackets then throw .invalid
  let x ← x.forgetKey
  return { x.accept t rest with keys := x.keys.drop 1, keyAllowed := false }

def readComma (x : TokenStream) (rest : List Char) : Scan TokenStream := do
  let x ← x.forgetKey
  return { x.accept .comma rest with keyAllowed := true }

def readItem (x : TokenStream) (rest : List Char) : Scan TokenStream := do
  if !x.inBrackets && !x.keyAllowed then throw .invalid
  let x := if x.inBrackets then x else x.openBlock .sequenceStart
  let x ← x.forgetKey
  return { x.accept .item rest with keyAllowed := true }

def readKey (x : TokenStream) (rest : List Char) : Scan TokenStream := do
  if !x.inBrackets && !x.keyAllowed then throw .invalid
  let x := if x.inBrackets then x else x.openBlock .mappingStart
  let x ← x.forgetKey
  return { x.accept .key rest with keyAllowed := !x.inBrackets }

/-- Puts the sign of a key at the place where it started, and the start of the block that it
opens. -/
def markKey (x : TokenStream) (k : KeyPlace) : TokenStream :=
  let x := x.insert k.position .key
  if !x.inBrackets && x.isDeeper k.column then
    { x.insert k.position .mappingStart with blocks := k.column :: x.blocks }
  else x

def readValue (x : TokenStream) (rest : List Char) : Scan TokenStream := do
  match x.keys with
  | some k :: outer =>
    let x := { x with keys := none :: outer, keyAllowed := false }.markKey k
    return x.accept .value rest
  | _ =>
    if !x.inBrackets && !x.keyAllowed then throw .invalid
    let x := if x.inBrackets then x else x.openBlock .mappingStart
    return { x.accept .value rest with keyAllowed := !x.inBrackets }

/-- Reads what can be a key or the start of one. -/
def readKeyLike (x : TokenStream) (read : Scan (Token × List Char)) : Scan TokenStream := do
  let x ← x.rememberKey
  let (t, rest) ← read
  return { x.accept t rest with keyAllowed := false }

def readPlainScalar (x : TokenStream) : Scan TokenStream := do
  let x ← x.rememberKey
  let s := readPlain x.inBrackets ((x.indent?.map (· + 1)).getD 0) x.cursor
  return { x.emit (.scalar (String.ofList s.text) true) with
    cursor := s.cursor, keyAllowed := s.atLineStart }

def readBlockScalar (x : TokenStream) (folded : Bool) (rest : List Char) : Scan TokenStream := do
  let x ← x.forgetKey
  let (text, rest) ← readBlock folded x.indent? rest
  return { x.accept (.scalar (String.ofList text) false) rest with keyAllowed := true }

def quotedToken (double : Bool) (rest : List Char) : Scan (Token × List Char) := do
  let (text, rest) ← readQuoted double rest
  return (.scalar (String.ofList text) false, rest)

def startsPlain (inBrackets : Bool) (c : Char) (rest : List Char) : Bool :=
  if c = '-' then !endsWord rest
  else if c = '?' || c = ':' then !inBrackets && !endsWord rest
  else
    !isGap c && !([',', '[', ']', '\x7b', '\x7d', '#', '&', '*', '!', '|', '>', '\x27', '\x22', '%',
      '@', '\x60'].contains c)

def readToken (x : TokenStream) (c : Char) (rest : List Char) : Scan TokenStream :=
  let atStart := x.cursor.column = 0
  if c = '%' ∧ atStart then do
    let (d, rest) ← readDirective rest
    x.readMark (.directive d) rest
  else if atStart ∧ startsDocument (c :: rest) then x.readMark .documentStart (rest.drop 2)
  else if atStart ∧ endsDocument (c :: rest) then x.readMark .documentEnd (rest.drop 2)
  else if c = '[' then x.readOpening .openBracket rest
  else if c = '\x7b' then x.readOpening .openBrace rest
  else if c = ']' then x.readClosing .closeBracket rest
  else if c = '\x7d' then x.readClosing .closeBrace rest
  else if c = ',' then x.readComma rest
  else if c = '-' ∧ endsWord rest then x.readItem rest
  else if c = '?' ∧ (x.inBrackets ∨ endsWord rest) then x.readKey rest
  else if c = ':' ∧ (x.inBrackets ∨ endsWord rest) then x.readValue rest
  else if c = '*' then
    x.readKeyLike ((readAnchor rest).map fun (name, rest) => (.reference name, rest))
  else if c = '&' then
    x.readKeyLike ((readAnchor rest).map fun (name, rest) => (.anchor name, rest))
  else if c = '!' then x.readKeyLike (readTag rest)
  else if c = '|' ∧ !x.inBrackets then x.readBlockScalar false rest
  else if c = '>' ∧ !x.inBrackets then x.readBlockScalar true rest
  else if c = '\x27' then x.readKeyLike (quotedToken false rest)
  else if c = '\x22' then x.readKeyLike (quotedToken true rest)
  else if startsPlain x.inBrackets c rest then x.readPlainScalar
  else .error .invalid

/-- The stream, if its text did not end for a fault. -/
def unlessCut (x : TokenStream) : Scan TokenStream :=
  if x.cursor.rest.isEmpty && x.stop.isSome then .error .ended else .ok x

def fetch (x : TokenStream) : Scan TokenStream := do
  let x ← (passGap (x.size + 1) x.passMark).unlessCut
  let x ← x.dropStaleKeys
  let x := x.unwind x.cursor.column
  match x.cursor.rest with
  | [] =>
    let x ← x.unwindAll.forgetKey
    return { x.emit .textEnd with ended := true }
  | c :: rest => (← x.readToken c rest).unlessCut

/-- Whether a key may have started with the first token that was not given out. -/
def mayBeKey (x : TokenStream) : Bool :=
  x.keys.any fun k => k.any (·.position = x.taken)

/-- Reads at most `fuel` tokens, until the next one can be given out. -/
def settle : Nat → TokenStream → Scan TokenStream
  | 0, _ => .error .ended
  | fuel + 1, x =>
    if x.ended then .ok x
    else if x.tokens.isEmpty then do (← x.fetch).settle fuel
    else do
      let x ← x.dropStaleKeys
      if x.mayBeKey then (← x.fetch).settle fuel else return x

def next (x : TokenStream) : Scan (Token × TokenStream) := do
  let x ← x.settle (x.size + 2)
  return (x.tokens.headD .textEnd, x)

def take (x : TokenStream) : TokenStream :=
  { x with tokens := x.tokens.drop 1, taken := x.taken + 1 }

def ofSource (s : Source) : TokenStream :=
  { size := s.text.length, cursor := ⟨s.text, 0, 0, 0⟩, stop := s.stop }

end TokenStream

end TestBench.Yaml
