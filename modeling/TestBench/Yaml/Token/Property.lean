import TestBench.Text.Numeral
import TestBench.Text.Utf8
import TestBench.Yaml.Character
import TestBench.Yaml.Flaw
import TestBench.Yaml.Token.Basic

/-! The tokens that say something about a node or a document instead of being part of one. -/
namespace TestBench.Yaml

def readName (cs : List Char) : Scan (String × List Char) :=
  match cs.takeWhile isNameChar with
  | [] => .error (.before cs)
  | name => .ok (String.ofList name, cs.drop name.length)

/-- Whether the name of an anchor may end before what comes next. -/
def endsAnchor (cs : List Char) : Bool :=
  endsWord cs || cs.head?.any fun c => ['?', ':', ',', ']', '\x7d', '%', '@', '\x60'].contains c

def readAnchor (cs : List Char) : Scan (String × List Char) := do
  let (name, rest) ← readName cs
  if endsAnchor rest then return (name, rest) else throw .invalid

def isTagChar (c : Char) : Bool :=
  c.isAlphanum || [
    '-', ';', '/', '?', ':', '@', '&', '=', '+', '$', ',', '_', '.', '!', '~', '*', '\x27', '(',
    ')', '[', ']'].contains c

def readHexDigit (cs : List Char) : Scan (Nat × List Char) :=
  match cs with
  | [] => .error .ended
  | c :: rest =>
    match (Text.digitIn? 16 c).filter fun _ => c.toNat < 0x80 with
    | some d => .ok (d, rest)
    | none => .error .invalid

/-- Reads at most `fuel` bytes in hexadecimal, each behind a percent sign. -/
def escapedBytes : Nat → List Char → Scan ((List UInt8) × List Char)
  | 0, cs => .ok ([], cs)
  | fuel + 1, cs =>
    match cs with
    | '%' :: rest => do
      let (high, rest) ← readHexDigit rest
      let (low, rest) ← readHexDigit rest
      let (bytes, rest) ← escapedBytes fuel rest
      return (UInt8.ofNat (high * 16 + low) :: bytes, rest)
    | cs => .ok ([], cs)

def readTagParts : Nat → List Char → Scan ((List Char) × List Char)
  | 0, cs => .ok ([], cs)
  | fuel + 1, cs =>
    match cs with
    | [] => .ok ([], [])
    | c :: rest =>
      if c = '%' then do
        let (bytes, rest) ← escapedBytes cs.length cs
        match Text.decode? bytes with
        | none => throw .invalid
        | some text =>
          let (more, rest) ← readTagParts fuel rest
          return (text ++ more, rest)
      else if isTagChar c then do
        let (more, rest) ← readTagParts fuel rest
        return (c :: more, rest)
      else .ok ([], cs)

def readTagText (cs : List Char) : Scan (String × List Char) := do
  let (text, rest) ← readTagParts cs.length cs
  if rest.length = cs.length then throw (.before rest)
  else return (String.ofList text, rest)

/-- Reads a handle: an exclamation mark, or a name between two. -/
def readHandle (cs : List Char) : Scan (String × List Char) :=
  match cs with
  | '!' :: rest =>
    if rest.head? = some ' ' then .ok ("!", rest)
    else
      let name := rest.takeWhile isNameChar
      match rest.drop name.length with
      | '!' :: rest => .ok (String.ofList ('!' :: name ++ ['!']), rest)
      | rest => .error (.before rest)
  | _ => .error (.before cs)

def hasHandle (cs : List Char) : Bool :=
  (cs.takeWhile fun c => c != ' ' && !isBreak c).contains '!'

def readTagBody (cs : List Char) : Scan (Token × List Char) :=
  match cs with
  | '<' :: rest => do
    let (text, rest) ← readTagText rest
    match rest with
    | '>' :: rest => return (.tag none text, rest)
    | rest => throw (.before rest)
  | _ =>
    if endsWord cs then .ok (.tag none "!", cs)
    else if hasHandle cs then do
      let (handle, rest) ← readHandle ('!' :: cs)
      let (text, rest) ← readTagText rest
      return (.tag (some handle) text, rest)
    else do
      let (text, rest) ← readTagText cs
      return (.tag (some "!") text, rest)

def readTag (cs : List Char) : Scan (Token × List Char) := do
  let (tag, rest) ← readTagBody cs
  if endsItem rest then return (tag, rest) else throw .invalid

def readNumber (cs : List Char) : Scan (Nat × List Char) :=
  match cs.takeWhile Char.isDigit with
  | [] => .error (.before cs)
  | digits =>
    if Text.digitLimit < digits.length then .error (.fault (.tooManyDigits digits.length))
    else
      .ok (Text.ofDigits 10 (digits.map fun c => c.toNat - '0'.toNat), cs.drop digits.length)

def readVersion (cs : List Char) : Scan (Directive × List Char) := do
  let (major, rest) ← readNumber (dropSpaces cs)
  match rest with
  | '.' :: rest =>
    let (_, rest) ← readNumber rest
    if endsItem rest then return (.version major, rest) else throw .invalid
  | rest => throw (.before rest)

def readHandleMeaning (cs : List Char) : Scan (Directive × List Char) := do
  let (handle, rest) ← readHandle (dropSpaces cs)
  if rest.head? ≠ some ' ' then throw (.before rest)
  let (stem, rest) ← readTagText (dropSpaces rest)
  if endsItem rest then return (.handle handle stem, rest) else throw .invalid

def readDirective (cs : List Char) : Scan (Directive × List Char) := do
  let (name, rest) ← readName cs
  if !endsItem rest then throw .invalid
  let (directive, rest) ←
    if name = "YAML" then readVersion rest
    else if name = "TAG" then readHandleMeaning rest
    else pure (Directive.other, rest.dropWhile (!isBreak ·))
  match restOfLine? rest with
  | none => throw .invalid
  | some rest => return (directive, rest)

end TestBench.Yaml
