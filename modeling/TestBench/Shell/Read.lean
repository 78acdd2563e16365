import TestBench.Shell.ByteText
import TestBench.Shell.Token

/-! What a character of a command line means depends on the quotes and brackets that are open. A
line that breaks off inside one of them, or has an operator or a keyword where none can be, is no
command line. A text is read as far as the first line end outside all brackets, so that what it
holds can be run before the rest is read; the texts that a line asks for stand behind its end. -/
namespace TestBench.Shell

inductive Enclosure where
  | word
  | quotes (inBraces : Bool)
  | braces (quoted : Bool)
  /-- The brackets of an arithmetic expression, with a number of open ones inside. -/
  | arithmetic (depth : Nat)
  | document
  deriving DecidableEq, Repr

structure Manner where
  enclosure : Enclosure
  literal : Bool := false
  within : Option Document := none

namespace Manner

def quotes (m : Manner) : Bool :=
  match m.enclosure with
  | .word => false
  | .quotes _ | .arithmetic _ | .document => true
  | .braces quoted => quoted

/-- Whether a backslash makes a character stand for itself and is dropped. -/
def dropsBackslash (m : Manner) (c : Char) : Bool :=
  let inBraces := match m.enclosure with
    | .quotes inBraces => inBraces
    | .braces _ => true
    | _ => false
  !m.quotes || ['$', '\x60', '\\'].contains c || (c = '\x22' && m.enclosure != .document) ||
    (c = '\x7d' && inBraces)

def inside (m : Manner) (enclosure : Enclosure) : Manner :=
  { m with enclosure }

end Manner

def isOrdinary (c : Char) : Bool :=
  c.isAlphanum || 0x80 ≤ c.toNat ||
    ['_', '.', '/', ',', ':', '=', '+', '%', '@', '^', '~', '*', '?', '[', ']'].contains c

/-- The pieces between double quotes with the mark that quotes stand there, which the arguments by
themselves do not need: there may be none. -/
def withPlace (quoted : Word) : Word :=
  match quoted with
  | [.variable "@" .value _ _] => quoted
  | _ => .place :: quoted

/-- The text between back quotes without the backslashes that make a character stand for itself, and
what follows it. -/
def backQuoted (inQuotes : Bool) : List Char → Option (List Char × List Char)
  | [] => none
  | '\x60' :: rest => some ([], rest)
  | '\\' :: '\n' :: rest => backQuoted inQuotes rest
  | '\\' :: c :: rest =>
    (backQuoted inQuotes rest).map fun (text, rest) =>
      (if ['\\', '\x60', '$'].contains c || (inQuotes && c = '\x22') then (c :: text, rest)
      else ('\\' :: c :: text, rest))
  | c :: rest => (backQuoted inQuotes rest).map fun (text, rest) => (c :: text, rest)

/-- What a token may be taken for where it is read. -/
structure Expecting where
  newlines : Bool := false
  keywords : Bool := false
  aliases : Bool := false

namespace Expecting

def anyWord : Expecting := {}

def command : Expecting := { keywords := true, aliases := true }

def laterCommand : Expecting := { newlines := true, keywords := true, aliases := true }

def laterKeyword : Expecting := { newlines := true, keywords := true }

def firstWord : Expecting := { aliases := true }

end Expecting

inductive ListPlace where
  | line
  /-- Between keywords or brackets; there has to be a command. -/
  | inner
  /-- Between keywords or brackets; there need not be a command. -/
  | perhaps
  deriving DecidableEq, Repr

namespace Reader

def ordinaryRun (m : Manner) : Reader Word := do
  let run := (← get).rest.takeWhile isOrdinary
  modify fun s => { s with rest := s.rest.drop run.length }
  return run.map (Piece.char · m.quotes)

def finished (m : Manner) (word : Word) : Reader Word :=
  match m.enclosure, m.within with
  | .word, _ | .document, _ => return word
  | .arithmetic _, _ => fail "Missing '))'"
  | .braces false, _ | _, some _ => fail "Missing '\x7d'"
  | _, none => fail "Unterminated quoted string"

/-- Passes the line that comes next if it ends a text, and otherwise the tabs it starts with if they
do not count. -/
def endsDocument (d : Document) : Reader Bool := do
  let s ← get
  let cs := if d.strip then s.rest.dropWhile (· = '\t') else s.rest
  let line := cs.takeWhile (· ≠ '\n')
  if String.ofList line = d.ending then
    let after := cs.drop line.length
    set { s with rest := after.drop 1, line := s.line + 1 }
    return true
  else
    set { s with rest := cs }
    return false

def plainLines (d : Document) (before : List Char) : Nat → Reader (List Char)
  | 0 => return before.reverse
  | fuel + 1 => do
    if (← endsDocument d) || (← get).rest.isEmpty then return before.reverse
    else
      let line := (← get).rest.takeWhile (· ≠ '\n')
      modify fun s => { s with rest := s.rest.drop line.length }
      let before := line.reverse ++ before
      if (← get).rest.isEmpty then return before.reverse
      else
        advance
        plainLines d ('\n' :: before) fuel

def singleQuoted (m : Manner) : Reader Word := do
  let s ← get
  let text := s.rest.takeWhile (· ≠ '\x27')
  let after := s.rest.drop text.length
  set { s with rest := after.drop 1, line := s.line + text.count '\n' }
  if after.isEmpty then finished (m.inside (.quotes true)) []
  else return .place :: text.map (Piece.char · true)

/-- Reads what is done with a variable, behind its name in braces; the second answer tells whether
the braces end there. -/
def valueRule : Reader (ValueRule × Bool) := do
  let ifEmpty ← takes ':'
  let c ← peek
  let whole (rule : ValueRule) : Reader (ValueRule × Bool) := do
    advance
    return (rule, false)
  match c with
  | some '\x7d' =>
    advance
    return (.value, !ifEmpty)
  | some '-' => whole (.fallback ifEmpty)
  | some '+' => whole (.replace ifEmpty)
  | some '?' => whole (.demand ifEmpty)
  | some '=' => whole (.assign ifEmpty)
  | some '%' =>
    if ifEmpty then whole .unknown
    else
      advance
      return (.cutEnd (← takes '%'), false)
  | some '#' =>
    if ifEmpty then whole .unknown
    else
      advance
      return (.cutStart (← takes '#'), false)
  | _ =>
    skip
    return (.unknown, false)

def bracedName (fuel : Nat) : Reader (String × Bool) := do
  let named (isLength : Bool) : Reader (String × Bool) := do
    match ← peek with
    | some c =>
      let p := if c.isDigit then Char.isDigit else isNamePart
      return (String.ofList (← takeWhile p fuel), isLength)
    | none => return ("", false)
  let special (c : Char) (isLength : Bool) : Reader (String × Bool) :=
    return if isSpecialName c then (c.toString, isLength) else ("", false)
  match ← peek with
  | none | some '\x7d' => return ("", false)
  | some '#' =>
    advance
    match ← peek with
    | none => return ("#", false)
    | some c =>
      if isNamePart c then named true
      else
        let s ← get
        skip
        if c ≠ '\x7d' && (← peek) = some '\x7d' then special c true
        else
          set s
          return ("#", false)
  | some c =>
    if isNamePart c then named false
    else
      skip
      special c false

/-- Reads what follows a sign that can start a change of an open file: what is done, or whether a
text is asked for. -/
def redirectSign (number : Option Nat) : Reader Token := do
  if ← takes '>' then
    let n := number.getD 1
    if ← takes '>' then return .redirect n .append
    else if ← takes '|' then return .redirect n .overwrite
    else if ← takes '&' then return .redirect n .copy
    else return .redirect n .write
  else
    advance
    let n := number.getD 0
    if ← takes '<' then return .document n (← takes '-')
    else if ← takes '&' then return .redirect n .copy
    else if ← takes '>' then return .redirect n .readWrite
    else return .redirect n .read

def operator? : Reader (Option Token) := do
  let twice (c : Char) (single double : String) : Reader (Option Token) := do
    advance
    return some (.mark (if ← takes c then double else single))
  match ← peek with
  | none => return some .finish
  | some '\n' =>
    advance
    return some .newline
  | some '&' => twice '&' "&" "&&"
  | some '|' => twice '|' "|" "||"
  | some ';' => twice ';' ";" ";;"
  | some '(' =>
    advance
    return some (.mark "(")
  | some ')' =>
    advance
    return some (.mark ")")
  | some _ => return none

def passBlanks : Nat → Reader Unit
  | 0 => pure ()
  | fuel + 1 => do
    match ← peek with
    | some ' ' | some '\t' =>
      advance
      passBlanks fuel
    | some '#' => passLine
    | _ => pure ()

def fileNumber? (word : Word) : Option (Option Nat) :=
  match word with
  | [] => some none
  | [.char c false] => if c.isDigit then some (some (c.toNat - '0'.toNat)) else none
  | _ => none

def wantText (strip : Bool) (mark : Word) : Reader Nat := do
  let s ← get
  let d : Document := ⟨s.nextText, literalText mark, strip, isQuoted mark⟩
  set { s with nextText := s.nextText + 1, wanted := s.wanted ++ [d] }
  return s.nextText

def assignment? (word : Word) : Option (String × Word) :=
  let name := (plainStart word).takeWhile (· ≠ '=')
  match word.drop name.length with
  | .char '=' false :: value => if isName name then some (String.ofList name, value) else none
  | _ => none

mutual

/-- Reads the pieces up to the end of what encloses them, behind those of `before`, of which the
last one comes first. -/
def pieces (m : Manner) (before : Word) : Nat → Reader Word
  | 0 => fail "nested too deeply"
  | fuel + 1 => do
    let before := (← ordinaryRun m).reverse ++ before
    let go (more : Word) : Reader Word := pieces m (more.reverse ++ before) fuel
    match ← peek with
    | none => finished m before.reverse
    | some c =>
      match m.enclosure, c with
      | .quotes _, '\x22' | .braces _, '\x7d' =>
        advance
        return before.reverse
      | .arithmetic depth, '(' =>
        advance
        pieces (m.inside (.arithmetic (depth + 1))) (.char c true :: before) fuel
      | .arithmetic (depth + 1), ')' =>
        advance
        pieces (m.inside (.arithmetic depth)) (.char c true :: before) fuel
      | .arithmetic 0, ')' =>
        advance
        if ← takes ')' then return before.reverse else go [.char c true]
      | _, '\n' =>
        if m.enclosure = .word then return before.reverse
        else
          advance
          let ended ← match m.within with
            | some d => endsDocument d
            | none => pure false
          if ended then finished m (.char c m.quotes :: before).reverse
          else go [.char c m.quotes]
      | _, '$' =>
        advance
        if m.literal then go [.char c m.quotes]
        else
          let (more, isLast) ← dollar m fuel
          if isLast then
            let _ ← pieces m [] fuel
            return (more.reverse ++ before).reverse
          else go more
      | _, '\x60' =>
        advance
        if m.literal then go [.char c m.quotes]
        else go [.output (← backQuotes m fuel) m.quotes]
      | _, '\\' =>
        advance
        match (← get).rest with
        | [] => go [.char c true]
        | d :: _ =>
          advance
          go (if m.dropsBackslash d then [.char d true] else [.char c true, .char d true])
      | _, _ =>
        if m.enclosure = .word && isMeta c then return before.reverse
        else
          advance
          if c = '\x27' && !m.quotes then go (← singleQuoted m)
          else if c = '\x22' then
            match m.enclosure with
            | .word => go (withPlace (← pieces (m.inside (.quotes false)) [] fuel))
            | .braces _ => go (withPlace (← pieces (m.inside (.quotes true)) [] fuel))
            | _ => go [.char c true]
          else go [.char c m.quotes]
termination_by structural fuel => fuel

/-- Reads what a dollar sign introduces; the second answer tells whether nothing behind it counts in
the pieces around it. -/
def dollar (m : Manner) : Nat → Reader (Word × Bool)
  | 0 => fail "nested too deeply"
  | fuel + 1 => do
    let quoted := m.quotes
    match ← peek with
    | some '(' =>
      advance
      if ← takes '(' then
        let body ← pieces (m.inside (.arithmetic 0)) [] fuel
        return ([.arithmetic body quoted], false)
      else
        let body ← bracketed fuel
        return ([.output body quoted], false)
    | some '\x7b' =>
      advance
      braced m fuel
    | some c =>
      if isNameStart c then
        let name ← takeWhile isNamePart fuel
        return ([.variable (String.ofList name) .value [] quoted], false)
      else if isSpecialName c then
        advance
        return ([.variable c.toString .value [] quoted], false)
      else return ([.char '$' quoted], false)
    | none => return ([.char '$' quoted], false)
termination_by structural fuel => fuel

def braced (m : Manner) : Nat → Reader (Word × Bool)
  | 0 => fail "nested too deeply"
  | fuel + 1 => do
    let (name, isLength) ← bracedName fuel
    let (rule, ended) ←
      if name.isEmpty then pure (.unknown, false)
      else if isLength then
        pure (if (← peek) = some '\x7d' then ValueRule.length else .unknown, false)
      else valueRule
    let isPattern := match rule with
      | .cutStart _ | .cutEnd _ => true
      | _ => false
    if ended then return ([.variable name .value [] m.quotes], false)
    else
      let word ← pieces (m.inside (.braces (m.quotes && !isPattern))) [] fuel
      if rule = .value then return (.variable name .value [] m.quotes :: word, true)
      else return ([.variable name rule word m.quotes], false)
termination_by structural fuel => fuel

def bracketed : Nat → Reader Command
  | 0 => fail "nested too deeply"
  | fuel + 1 => do
    let wanted := (← get).wanted
    modify fun s => { s with wanted := [], pushed := none }
    let body ← list .perhaps none fuel
    let t ← token .anyWord fuel
    if !t.isMark ")" then unexpectedFor t (.mark ")")
    modify fun s => { s with wanted, pushed := none }
    return body
termination_by structural fuel => fuel

/-- Reads the commands between back quotes, behind the first of them: a text of its own. -/
def backQuotes (m : Manner) : Nat → Reader Command
  | 0 => fail "nested too deeply"
  | fuel + 1 => do
    let outer ← get
    match backQuoted m.quotes outer.rest with
    | none =>
      set { outer with line := outer.line + outer.rest.count '\n' }
      fail "EOF in backquote substitution"
    | some (text, after) =>
      let lines := outer.rest.count '\n' - after.count '\n'
      set { outer with
        rest := text, line := 1, openAliases := [], pushed := none, wanted := [] }
      let body ← list .perhaps none fuel
      modify fun s => { outer with
        rest := after, line := outer.line + lines, found := s.found, nextText := s.nextText }
      return body
termination_by structural fuel => fuel

def token (e : Expecting) : Nat → Reader Token
  | 0 => fail "nested too deeply"
  | fuel + 1 => do
    match (← get).pushed with
    | some t =>
      modify fun s => { s with pushed := none }
      match t with
      | .newline =>
        if e.newlines then
          documents fuel
          token e fuel
        else return t
      | t => return t
    | none =>
      let inUse := (← get).openAliases
      passBlanks ((← get).rest.length + 1)
      let start := (← get).rest.length
      match ← operator? with
      | some .newline =>
        if e.newlines then
          documents fuel
          token e fuel
        else return .newline
      | some t => return t
      | none =>
        let word ← pieces { enclosure := .word } [] fuel
        match fileNumber? word, (← get).rest.head? with
        | some number, some '<' | some number, some '>' => redirectSign number
        | _, _ =>
          let blankEnd ← closeAliases
          modify fun s => { s with lastWord := word }
          match plainText? word with
          | none => return .word word
          | some text =>
            if e.keywords && keywords.contains text then return .keyword text
            else if e.aliases || blankEnd then
              match (← get).aliases.lookup text with
              | some value =>
                let inUse := inUse.filter (·.left < start)
                if inUse.any (·.name == text) then return .word word
                else
                  openAlias inUse text value
                  token { e with aliases := e.aliases || blankEnd } fuel
              | none => return .word word
            else return .word word
termination_by structural fuel => fuel

def documents : Nat → Reader Unit
  | 0 => fail "nested too deeply"
  | fuel + 1 => do
    match (← get).wanted with
    | [] => pure ()
    | d :: more =>
      modify fun s => { s with wanted := more }
      let plain : Reader Word := do
        return (← plainLines d [] ((← get).rest.length + 1)).map (Piece.char · true)
      let replaced : Reader Word := do
        if ← endsDocument d then return []
        else pieces { enclosure := .document, within := some d } [] fuel
      let text ← if d.plain then plain else replaced
      modify fun s => { s with found := (d.number, text) :: s.found }
      documents fuel
termination_by structural fuel => fuel

def redirectTarget (t : Token) : Nat → Reader Redirect
  | 0 => fail "nested too deeply"
  | fuel + 1 => do
    match t with
    | .document number strip =>
      passBlanks ((← get).rest.length + 1)
      match ← operator? with
      | some t => unexpected t
      | none =>
        let mark ← pieces { enclosure := .word, literal := true } [] fuel
        match fileNumber? mark, (← get).rest.head? with
        | some number, some '<' | some number, some '>' =>
          unexpected (← redirectSign number)
        | _, _ =>
          modify fun s => { s with lastWord := mark }
          return (number, .text (← wantText strip mark), [])
    | .redirect number mode =>
      match ← token .anyWord fuel with
      | .word word => return (number, mode, word)
      | t => unexpected t
    | t => unexpected t
termination_by structural fuel => fuel

def redirects : Nat → Reader (List Redirect)
  | 0 => fail "nested too deeply"
  | fuel + 1 => do
    let t ← token .command fuel
    match t with
    | .redirect .. | .document .. =>
      let first ← redirectTarget t fuel
      return first :: (← redirects fuel)
    | t =>
      giveBack t
      return []
termination_by structural fuel => fuel

def list (place : ListPlace) (before : Option Command) : Nat → Reader Command
  | 0 => fail "nested too deeply"
  | fuel + 1 => do
    let read := before.getD .nothing
    let t ← token { Expecting.command with newlines := place ≠ .line } fuel
    match t with
    | .newline =>
      documents fuel
      return read
    | .finish =>
      documents fuel
      giveBack .finish
      return read
    | t =>
      giveBack t
      if place ≠ .line && (place = .perhaps || before.isSome) && t.endsList then return read
      else
        let command ← andOr fuel
        let t ← token .anyWord fuel
        let command := if t.isMark "&" then .background command else command
        let all := match before with
          | none => command
          | some first => .next first command
        match t with
        | .finish | .newline =>
          giveBack t
          list place (some all) fuel
        | t =>
          if t.isMark "&" || t.isMark ";" then list place (some all) fuel
          else if place = .line then unexpected t
          else
            giveBack t
            return all
termination_by structural fuel => fuel

def andOr : Nat → Reader Command
  | 0 => fail "nested too deeply"
  | fuel + 1 => do
    let first ← pipeline fuel
    andOrAfter first fuel
termination_by structural fuel => fuel

def andOrAfter (first : Command) : Nat → Reader Command
  | 0 => fail "nested too deeply"
  | fuel + 1 => do
    let t ← token .anyWord fuel
    if t.isMark "&&" || t.isMark "||" then
      giveBack (← token .laterCommand fuel)
      let second ← pipeline fuel
      andOrAfter (if t.isMark "&&" then .both first second else .either first second) fuel
    else
      giveBack t
      return first
termination_by structural fuel => fuel

def pipeline : Nat → Reader Command
  | 0 => fail "nested too deeply"
  | fuel + 1 => do
    let t ← token .anyWord fuel
    let negated := t.isKeyword "!"
    giveBack (← if negated then token .command fuel else pure t)
    let body ← match ← stages fuel with
      | [single] => pure single
      | several => pure (.pipe several)
    return if negated then .negate body else body
termination_by structural fuel => fuel

def stages : Nat → Reader (List Command)
  | 0 => fail "nested too deeply"
  | fuel + 1 => do
    let first ← command (← get).line fuel
    let t ← token .anyWord fuel
    if t.isMark "|" then
      let line := (← get).line
      giveBack (← token .laterCommand fuel)
      furtherStages line first fuel
    else
      giveBack t
      return [first]
termination_by structural fuel => fuel

/-- Reads the commands of a pipeline behind its first one; the second one starts on a line or
later. -/
def furtherStages (line : Nat) (first : Command) : Nat → Reader (List Command)
  | 0 => fail "nested too deeply"
  | fuel + 1 => do
    let second ← command line fuel
    let t ← token .anyWord fuel
    if t.isMark "|" then
      let line := (← get).line
      giveBack (← token .laterCommand fuel)
      return first :: (← furtherStages line second fuel)
    else
      giveBack t
      return [first, second]
termination_by structural fuel => fuel

def command (line : Nat) : Nat → Reader Command
  | 0 => fail "nested too deeply"
  | fuel + 1 => do
    let redirected (body : Command) : Reader Command := do
      let changes ← redirects fuel
      return if changes.isEmpty then body else .redirected line body changes
    let t ← token .anyWord fuel
    match t with
    | .mark "(" =>
      let body ← list .inner none fuel
      expect (.mark ")") fuel
      return .subshell line body (← redirects fuel)
    | .keyword "\x7b" =>
      let body ← list .inner none fuel
      expect (.keyword "\x7d") fuel
      redirected body
    | .keyword "if" =>
      let body ← choice fuel
      expect (.keyword "fi") fuel
      redirected body
    | .keyword "while" | .keyword "until" =>
      let condition ← list .inner none fuel
      expect (.keyword "do") fuel
      let body ← list .inner none fuel
      expect (.keyword "done") fuel
      redirected (.loop (t.isKeyword "until") condition body)
    | .keyword "for" =>
      let body ← each line fuel
      expect (.keyword "done") fuel
      redirected body
    | .keyword "case" =>
      match ← token .anyWord fuel with
      | .word word =>
        let t ← token .laterCommand fuel
        if !t.isKeyword "in" then unexpectedFor t (.keyword "in")
        redirected (.select line word (← arms fuel))
      | t => unexpectedFor t (.word [])
    | .word _ | .redirect .. | .document .. =>
      giveBack t
      simple fuel
    | t => unexpected t
termination_by structural fuel => fuel

def expect (wanted : Token) : Nat → Reader Unit
  | 0 => fail "nested too deeply"
  | fuel + 1 => do
    let t ← token .anyWord fuel
    let isWanted := match wanted with
      | .mark text => t.isMark text
      | .keyword name => t.isKeyword name
      | _ => false
    if isWanted then pure () else unexpectedFor t wanted
termination_by structural fuel => fuel

def choice : Nat → Reader Command
  | 0 => fail "nested too deeply"
  | fuel + 1 => do
    let condition ← list .inner none fuel
    expect (.keyword "then") fuel
    let yes ← list .inner none fuel
    let t ← token .anyWord fuel
    if t.isKeyword "elif" then return .choice condition yes (← choice fuel)
    else if t.isKeyword "else" then return .choice condition yes (← list .inner none fuel)
    else
      giveBack t
      return .choice condition yes .nothing
termination_by structural fuel => fuel

def each (line : Nat) : Nat → Reader Command
  | 0 => fail "nested too deeply"
  | fuel + 1 => do
    let name ← match ← token .anyWord fuel with
      | .word word => pure ((plainText? word).getD "")
      | _ => pure ""
    if !isName name.toList then fail "Bad for loop variable"
    let t ← token .laterCommand fuel
    let values ← if t.isKeyword "in" then some <$> words fuel
      else do
        if !t.isMark ";" then giveBack t
        pure none
    let t ← token .laterCommand fuel
    if !t.isKeyword "do" then unexpectedFor t (.keyword "do")
    return .each line name values (← list .inner none fuel)
termination_by structural fuel => fuel

def words : Nat → Reader (List Word)
  | 0 => fail "nested too deeply"
  | fuel + 1 => do
    match ← token .anyWord fuel with
    | .word word => return word :: (← words fuel)
    | .newline | .mark ";" => return []
    | t => unexpected t
termination_by structural fuel => fuel

def arms : Nat → Reader (List (List Word × Command))
  | 0 => fail "nested too deeply"
  | fuel + 1 => do
    let t ← token .laterKeyword fuel
    if t.isKeyword "esac" then return []
    else
      if t.isMark "(" then
        let _ ← token .anyWord fuel
      let patterns ← patterns fuel
      let body ← list .perhaps none fuel
      let t ← token .laterKeyword fuel
      if t.isMark ";;" then return (patterns, body) :: (← arms fuel)
      else if t.isKeyword "esac" then return [(patterns, body)]
      else unexpectedFor t (.mark ";;")
termination_by structural fuel => fuel

def patterns : Nat → Reader (List Word)
  | 0 => fail "nested too deeply"
  | fuel + 1 => do
    let pattern := (← get).lastWord
    let t ← token .anyWord fuel
    if t.isMark "|" then
      let _ ← token .anyWord fuel
      return pattern :: (← patterns fuel)
    else if t.isMark ")" then return [pattern]
    else unexpectedFor t (.mark ")")
termination_by structural fuel => fuel

def simple : Nat → Reader Command
  | 0 => fail "nested too deeply"
  | fuel + 1 => do
    simpleParts (← get).line [] [] [] fuel
termination_by structural fuel => fuel

/-- Reads the parts of a simple command behind those that have been read, the last ones of which
come first. -/
def simpleParts (line : Nat) (assignments : List (String × Word)) (words : List Word)
    (changes : List Redirect) : Nat → Reader Command
  | 0 => fail "nested too deeply"
  | fuel + 1 => do
    let t ← token (if words.isEmpty then .firstWord else .anyWord) fuel
    let finish : Reader Command := do
      giveBack t
      return .simple line assignments.reverse words.reverse changes.reverse
    match t with
    | .word word =>
      match if words.isEmpty then assignment? word else none with
      | some (name, value) => simpleParts line ((name, value) :: assignments) words changes fuel
      | none => simpleParts line assignments (word :: words) changes fuel
    | .redirect .. | .document .. =>
      let change ← redirectTarget t fuel
      simpleParts line assignments words (change :: changes) fuel
    | .mark "(" =>
      match assignments, words, changes with
      | [], [name], [] =>
        let t ← token .anyWord fuel
        if !t.isMark ")" then unexpectedFor t (.mark ")")
        match plainText? name with
        | some name =>
          if !isName name.toList || specialCommands.contains name then fail "Bad function name"
          giveBack (← token .laterCommand fuel)
          return .define name (← command (← get).line fuel)
        | none => fail "Bad function name"
      | _, _, _ => finish
    | _ => finish
termination_by structural fuel => fuel

end

end Reader

/-- The commands of the first line of a text, and what follows them. -/
def Command.ofSource (s : Source) : Except ReadFault (Command × Source) :=
  (Reader.list .line none (16 * s.rest.length + 100000)).run { s with pushed := none, wanted := [] }

end TestBench.Shell
