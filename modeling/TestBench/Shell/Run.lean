import TestBench.Shell.Builtin

/-! What commands do, word by word and command by command. `fuel` bounds how deep steps may lie
inside one another; a command for which it is not enough fails. -/
namespace TestBench.Shell

structure Call where
  all : List String := []
  rest : List Word
  start : Nat := 0
  /-- The word `command` stands in front: functions do not count, and nothing is special. -/
  isPlain : Bool := false
  isUsual : Bool := false

namespace Call

def name? (c : Call) : Option String :=
  c.all[c.start]?

def function? (c : Call) (s : State) : Option Command :=
  if c.isPlain then none else c.name?.bind fun name => s.functions.lookup name

def isOwn (c : Call) (s : State) : Bool :=
  (c.function? s).isNone && c.name?.any isOwnCommand

def isSpecial (c : Call) (s : State) : Bool :=
  c.isOwn s && !c.isPlain && c.name?.any specialCommands.contains

def assigns (c : Call) (s : State) : Bool :=
  c.isOwn s && c.name?.any ["alias", "export", "local", "readonly"].contains

end Call

/-- Whether the failure of a command is its own, and not that of a command inside it that has been
looked at. -/
def endsOnFailure : Command → Bool
  | .simple .. | .subshell .. | .pipe _ | .background _ => true
  | _ => false

def callsShell (word : String) : Bool :=
  ["sh", "dash"].contains ((programOfPath? word).getD word)

/-- The file that a word names as one that holds commands: without a slash it is looked for where
programs are. -/
def commandFile? (s : State) (word : String) : Option String :=
  if word.contains '/' then some word
  else
    ((searchedDirectories s).map fun directory =>
      if directory.isEmpty then word else directory ++ "/" ++ word).find? fun path =>
        kindOf? s path == some .regular

mutual

def expand (use : WordUse) : Nat → List Piece → ShellM (List Mark)
  | 0, _ => return []
  | _ + 1, [] => return []
  | fuel + 1, piece :: rest => do
    let s ← get
    let isTilde := match piece with
      | .char '~' false => use.tilde
      | _ => false
    match if isTilde then tilde? s use rest else none with
    | some (directory, rest) =>
      return marksOf true directory ++ (← expand { use with tilde := false } fuel rest)
    | none =>
      let marks ← expandPiece use piece fuel
      let tilde := match piece with
        | .char ':' false => use.colons
        | _ => false
      return marks ++ (← expand { use with tilde } fuel rest)
termination_by structural fuel _ => fuel

def expandPiece (use : WordUse) (piece : Piece) : Nat → ShellM (List Mark)
  | 0 => return []
  | fuel + 1 => do
    match piece with
    | .char c quoted => return [.char c quoted]
    | .place => return [.place]
    | .variable name rule word quoted => expandVariable use name rule word quoted fuel
    | .output .nothing quoted => return marksOf quoted ""
    | .output body quoted =>
      runWaiting fuel
      let bytes ← collect (asPart (atExit (asCondition false (run fuel body)) fuel))
      receiveSent
      let text := (ofBytes bytes).toList.filter (· ≠ '\x00')
      return marksOf quoted (String.ofList ((text.reverse.dropWhile (· = '\n')).reverse))
    | .arithmetic body quoted =>
      marksOf quoted <$> calculate (markText (← expand {} fuel body))
termination_by structural fuel => fuel

def expandVariable (use : WordUse) (name : String) (rule : ValueRule) (word : List Piece)
    (quoted : Bool) : Nat → ShellM (List Mark)
  | 0 => return []
  | fuel + 1 => do
    let value := valueMarks? (← get) use name quoted
    let isMissing (ifEmpty : Bool) : Bool :=
      (value.all fun marks => ifEmpty && markLength marks = 0)
    let standIn : ShellM (List Mark) := do
      let marks ← expand { use with tilde := true } fuel word
      return if quoted then marks else asSpliced false marks
    let needed : ShellM (List Mark) := do
      if value.isNone && (← get).hasOption "nounset" then failWith (name ++ ": parameter not set")
      return value.getD []
    match rule with
    | .value => needed
    | .length => return marksOf quoted (toString (markLength (← needed)))
    | .fallback ifEmpty => if isMissing ifEmpty then standIn else needed
    | .replace ifEmpty => if isMissing ifEmpty then return [] else standIn
    | .assign ifEmpty =>
      if !isMissing ifEmpty then needed
      else
        assignNamed name (markText (← expand .single fuel word))
        return (valueMarks? (← get) use name quoted).getD []
    | .demand ifEmpty =>
      if !isMissing ifEmpty then needed
      else if word.isEmpty then
        failWith (name ++ ": parameter not set" ++ if ifEmpty then " or null" else "")
      else failWith (name ++ ": " ++ markText (← expand .single fuel word))
    | .cutStart longest =>
      let marks ← needed
      if value.isNone then return []
      else return cutMarksStart (.ofMarks (← expand .single fuel word)) longest marks
    | .cutEnd longest =>
      let marks ← needed
      if value.isNone then return []
      else return cutMarksEnd (.ofMarks (← expand .single fuel word)) longest marks
    | .unknown => failWith "Bad substitution"
termination_by structural fuel => fuel

def fieldsOf (word : Word) : Nat → ShellM (List String)
  | 0 => return []
  | fuel + 1 => do
    let marks ← expand .argument fuel word
    let s ← get
    return (fields s.separators none marks).flatMap fun field =>
      match namesOf s field with
      | [] => [markText field]
      | names => names
termination_by structural fuel => fuel

/-- The words that several words of a command become. With `assigns` those that look like
assignments stay one word each. -/
def argumentsOf (assigns : Bool) : Nat → List Word → ShellM (List String)
  | 0, _ => return []
  | _ + 1, [] => return []
  | fuel + 1, word :: rest => do
    let first ← match if assigns then Reader.assignment? word else none with
      | some (name, value) =>
        pure [name ++ "=" ++ markText (← expand .assigned fuel value)]
      | none => fieldsOf word fuel
    return first ++ (← argumentsOf assigns fuel rest)
termination_by structural fuel _ => fuel

/-- Makes out words of a call until there are more than a number, or no other ones. -/
def makeOut (count : Nat) : Nat → Call → ShellM Call
  | 0, c => return c
  | fuel + 1, c => do
    match c.rest with
    | [] => return c
    | word :: rest =>
      if count < c.all.length then return c
      else makeOut count fuel { c with all := c.all ++ (← fieldsOf word fuel), rest }
termination_by structural fuel _ => fuel

/-- Passes the options behind the word `command`, from a place on; nothing is passed if they are not
those of a call. -/
def passOptions (place : Nat) (isUsual : Bool) : Nat → Call → ShellM Call
  | 0, c => return c
  | fuel + 1, c => do
    let c ← makeOut place fuel c
    match c.all[place]?.map String.toList with
    | none => return c
    | some ['-', '-'] =>
      let c ← makeOut (place + 1) fuel c
      return if place + 1 < c.all.length then
        { c with start := place + 1, isPlain := true, isUsual }
      else c
    | some ('-' :: letter :: letters) =>
      if (letter :: letters).all (· = 'p') then passOptions (place + 1) true fuel c else return c
    | some _ => return { c with start := place, isPlain := true, isUsual }
termination_by structural fuel _ => fuel

def findStart : Nat → Call → ShellM Call
  | 0, c => return c
  | fuel + 1, c => do
    if c.name? ≠ some "command" || (c.function? (← get)).isSome then return c
    else
      let next ← passOptions (c.start + 1) c.isUsual fuel c
      if next.start = c.start then return next else findStart fuel next
termination_by structural fuel _ => fuel

/-- The changes of open files with what they are done with, as far as this can be said before they
are made. -/
def targetsOf : Nat → List Redirect → ShellM (List (Nat × RedirectMode × String))
  | 0, _ => return []
  | _ + 1, [] => return []
  | fuel + 1, (number, mode, word) :: rest => do
    let target := markText (← expand .single fuel word)
    checkTarget mode target
    return (number, mode, target) :: (← targetsOf fuel rest)
termination_by structural fuel _ => fuel

def redirectAll (areSaved : Bool) : Nat → List (Nat × RedirectMode × String) → ShellM Unit
  | 0, _ => pure ()
  | _ + 1, [] => pure ()
  | fuel + 1, (number, mode, target) :: rest => do
    let target ← match mode with
      | .text n => markText <$> expand {} fuel (((← get).texts.lookup n).getD [])
      | _ => pure target
    redirect areSaved number mode target
    redirectAll areSaved fuel rest
termination_by structural fuel _ => fuel

def withTargets (targets : List (Nat × RedirectMode × String)) (lasts : Bool)
    (refused body : ShellM Nat) : Nat → ShellM Nat
  | 0 => body
  | fuel + 1 =>
    keepingStreams (targets.map (·.1)) lasts do
      let isDone ← tryCatch (do redirectAll true fuel targets; return true) fun
        | .failure => pure false
        | e => throw e
      if isDone then body else refused
termination_by structural fuel => fuel

/-- Assigns values to names, which are saved before if `saves` is set and made known to programs if
`exports` is; these are the assignments that were made. -/
def assignAll (saves exports : Bool) : Nat → List (String × Word) → ShellM (List String)
  | 0, _ => return []
  | _ + 1, [] => return []
  | fuel + 1, (name, word) :: rest => do
    let value := markText (← expand .assigned fuel word)
    if saves then modify (·.save name)
    assign name value
    if exports then
      modify fun s => s.putVariable name
        ((s.bindings.lookup name).map fun v => { v with exported := true })
    return (name ++ "=" ++ value) :: (← assignAll saves exports fuel rest)
termination_by structural fuel _ => fuel

def showCommand (words : List String) : Nat → ShellM Unit
  | 0 => pure ()
  | fuel + 1 => do
    let s ← get
    if s.hasOption "xtrace" then
      let text := (s.value? "PS4").getD ""
      let front ←
        match (Reader.pieces { enclosure := .document } [] fuel).run { rest := text.toList } with
        | .ok (pieces, _) =>
          modify (·.withOption "xtrace" false)
          let marks ← expand {} fuel pieces
          modify (·.withOption "xtrace" true)
          pure (markText marks)
        | .error _ => pure text
      let line := front ++ " ".intercalate words ++ "\n"
      modify fun s => ((s.shownOn.bind fun h => s.writeTo? h (toBytes line))).getD s
termination_by structural fuel => fuel

def runSimple (assignments : List (String × Word)) (words : List Word)
    (redirects : List Redirect) : Nat → ShellM Nat
  | 0 => return 1
  | fuel + 1 => do
    modify fun s => { s with collectedCode := 0 }
    let c ← findStart fuel (← makeOut 0 fuel { rest := words })
    let s ← get
    let more ← argumentsOf (c.assigns s) fuel c.rest
    let all := c.all ++ more
    let saves := c.name?.isSome && !c.isSpecial s
    let isExec := c.isOwn s && c.name? = some "exec"
    let exports := saves || (isExec && c.start + 1 < all.length)
    let body : ShellM Nat := do
      let targets ← targetsOf fuel redirects
      modify fun s => { s with shownOn := s.streams.lookup 2 }
      let refused : ShellM Nat := if c.isSpecial s then throw .failure else return 2
      let called : ShellM Nat := do
        let assigned ← assignAll saves exports fuel assignments
        showCommand (assigned ++ all) fuel
        match c.name? with
        | none => return (← get).collectedCode
        | some name => runCall c name (all.drop (c.start + 1)) fuel
      withTargets targets isExec refused called fuel
    if saves then savingVariables body else body
termination_by structural fuel => fuel

def runCall (c : Call) (name : String) (words : List String) : Nat → ShellM Nat
  | 0 => return 1
  | fuel + 1 => do
    let s ← get
    match c.function? s with
    | some body => asFunction words (run fuel body)
    | none =>
      if !c.isOwn s then runProgram c.isUsual name words fuel
      else
        let own : ShellM Nat := do
          let code ← runOwn name words fuel
          if (← get).writeFailed then
            modify fun s => { s with writeFailed := false }
            complain (name ++ ": I/O error")
            return code ||| 1
          else return code
        tryCatch (withSignature (name ++ ": ") own) fun
          | .failure => if c.isSpecial s then throw .failure else return 2
          | e => throw e
termination_by structural fuel => fuel

def runOwn (name : String) (words : List String) : Nat → ShellM Nat
  | 0 => return 1
  | fuel + 1 => do
    match splitCommandOptions name words with
    | .error e => failWith e.message
    | .ok (options, words) =>
      match name, words with
      | "eval", _ => runText false (" ".intercalate words) fuel
      | ".", file :: _ =>
        let s ← get
        match commandFile? s file with
        | none => failWith (file ++ ": not found")
        | some path =>
          if (kindOf? s path).isNone then failWith ("cannot open " ++ path ++ ": No such file")
          else
            let text := ofBytes ((contents? s path).getD [])
            withSignature (path ++ ": ")
              (asCondition false (catchingReturn (runText true text fuel)))
      | "command", first :: _ =>
        if options.any fun o => o.1 = 'v' ∨ o.1 = 'V' then
          describeAll (options.lookup 'p').isSome (options.lookup 'V').isNone [first]
        else return 0
      | "exec", first :: more => runInstead first more fuel
      | "wait", _ =>
        runWaiting fuel
        waitFor words
      | ".", [] | "command", [] | "exec", [] => return 0
      | _, _ => return (← runOwn? name options words).getD 127
termination_by structural fuel => fuel

def runInstead (name : String) (words : List String) : Nat → ShellM Nat
  | 0 => return 1
  | fuel + 1 => do
    let s ← get
    if (programPath? s name).isNone then
      let (text, code) := programFault s name
      complain (name ++ ": " ++ text)
      throw (.exit (if text = "not found" then code else 126))
    else
      modify fun s => { s with traps := s.traps.filter (·.1 ≠ 0) }
      if callsShell name then
        let call := ShellCall.ofWords s name words
        modify (·.ofCall call)
        throw (.exit (← runCalled call fuel))
      else
        match program? s name words with
        | some e => throw (.exit (← performProgram name e))
        | none => throw (.exit 127)
termination_by structural fuel => fuel

/-- Runs a program; with `isUsual` it is looked for in the usual directories. -/
def runProgram (isUsual : Bool) (name : String) (words : List String) : Nat → ShellM Nat
  | 0 => return 1
  | fuel + 1 => do
    let s ← get
    if (programPath? (if isUsual then s.putVariable "PATH" none else s) name).isNone then
      let (text, code) := programFault s name
      complain (name ++ ": " ++ text)
      return code
    else
      remember name
      runWaiting fuel
      if callsShell name then
        let call := ShellCall.ofWords s name words
        asOtherShell call (runCalled call fuel)
      else
        match program? s name words with
        | some e => performProgram name e
        | none => return 127
termination_by structural fuel => fuel

def runCalled (call : ShellCall) : Nat → ShellM Nat
  | 0 => return 1
  | fuel + 1 => do
    match call.fault with
    | some message =>
      warn (call.name ++ ": 0: " ++ message ++ "\n")
      say 1 call.said
      return 2
    | none =>
      say 1 call.said
      if call.asksControl then warn (call.name ++ ": 0: " ++ noControl ++ "\n")
      atExit (runText call.isFile call.text fuel) fuel
termination_by structural fuel => fuel

/-- Runs the lines of a text, each before the next one is read; lines of a file are shown if that is
wanted. -/
def runSource (isFile : Bool) (status : Nat) (source : Source) : Nat → ShellM Nat
  | 0 => return 1
  | fuel + 1 => do
    if source.rest.isEmpty then return status
    else
      let s ← get
      let source := { source with aliases := s.aliases, nextText := s.nextText, found := [] }
      match Command.ofSource source with
      | .error e =>
        modify fun s => { s with line := e.line }
        failWith e.message
      | .ok (body, next) =>
        modify fun s => { s with
          texts := next.found ++ s.texts, nextText := next.nextText, nextLine := next.line }
        if isFile && s.hasOption "verbose" then
          warn (String.ofList (source.rest.take (source.rest.length - next.rest.length)))
        match body with
        | .nothing => runSource isFile status next fuel
        | body => runSource isFile (← run fuel body) next fuel
termination_by structural fuel => fuel

def runText (isFile : Bool) (text : String) : Nat → ShellM Nat
  | 0 => return 1
  | fuel + 1 => asText (runSource isFile 0 { rest := text.toList } fuel)
termination_by structural fuel => fuel

def handleSignals : Nat → ShellM Unit
  | 0 => pure ()
  | fuel + 1 => do
    let s ← get
    match s.pending.min? with
    | none => pure ()
    | some signal =>
      let code := s.codeBefore.getD s.status
      let action := (s.traps.lookup signal).getD ""
      set { s with pending := s.pending.filter (· ≠ signal), codeBefore := some code }
      let finish (status : Nat) : ShellM Unit :=
        modify fun now => { now with status, codeBefore := s.codeBefore }
      tryCatch (do let _ ← asCondition false (runText false action fuel)) fun e => do
        match e with
        | .leaveFunction none | .leaveLoop _ | .nextRound _ => finish code
        | _ => finish (← get).status
        throw e
      finish code
      handleSignals fuel
termination_by structural fuel => fuel

def endShell (code : Nat) : Nat → ShellM Nat
  | 0 => return code
  | fuel + 1 => do
    match (← get).traps.lookup 0 with
    | none => return code
    | some action =>
      modify fun s => { s with
        traps := s.traps.filter (·.1 ≠ 0), status := code, codeBefore := some code
        inCondition := false, loops := 0 }
      tryCatch (do let _ ← runText false action fuel; return code) fun
        | .exit code => pure code
        | .failure => pure 2
        | .killed signal => throw (.killed signal)
        | _ => pure code
termination_by structural fuel => fuel

/-- Runs a shell to its end, however it ends; what still waits in the background comes last. -/
def atExit (body : ShellM Nat) : Nat → ShellM Nat
  | 0 => body
  | fuel + 1 => do
    let ending ← tryCatch (do
        let code ← tryCatch body codeOfLeave
        Except.ok <$> endShell code fuel) fun e => pure (.error e)
    runWaiting fuel
    match ending with
    | .ok code => return code
    | .error e => throw e
termination_by structural fuel => fuel

def repeatLoop (untilTrue : Bool) (condition body : Command) (status : Nat) : Nat → ShellM Nat
  | 0 => return status
  | fuel + 1 => do
    let test : ShellM (Option Bool) := do
      return some (((← asCondition true (run fuel condition)) = 0) ≠ untilTrue)
    let holds ← tryCatch test fun
      | .leaveFunction none => throw (.leaveFunction (some status))
      | e => do
        let (_, again) ← afterRound status e
        return if again then none else some false
    match holds with
    | some false => return status
    | none => repeatLoop untilTrue condition body status fuel
    | some true =>
      let (status, again) ← tryCatch ((·, true) <$> run fuel body) fun e => do
        afterRound (← get).status e
      if again then repeatLoop untilTrue condition body status fuel else return status
termination_by structural fuel => fuel

def repeatEach (name : String) (body : Command) (status : Nat) : Nat → List String → ShellM Nat
  | 0, _ => return status
  | _ + 1, [] => return status
  | fuel + 1, value :: rest => do
    assign name value
    let (status, again) ← tryCatch ((·, true) <$> run fuel body) fun e => do
      afterRound (← get).status e
    if again then repeatEach name body status fuel rest else return status
termination_by structural fuel _ => fuel

def fitsAny (text : List Char) : Nat → List Word → ShellM Bool
  | 0, _ => return false
  | _ + 1, [] => return false
  | fuel + 1, word :: rest => do
    if (Pattern.ofMarks (← expand .single fuel word)).fits text then return true
    else fitsAny text fuel rest
termination_by structural fuel _ => fuel

def runSelected (text : List Char) : Nat → List (List Word × Command) → ShellM Nat
  | 0, _ => return 0
  | _ + 1, [] => return 0
  | fuel + 1, (patterns, body) :: rest => do
    if ← fitsAny text fuel patterns then
      match body with
      | .nothing => return 0
      | body => run fuel body
    else runSelected text fuel rest
termination_by structural fuel _ => fuel

/-- Runs the stages of a pipeline: each but the last writes what the next one reads. -/
def runStages : Nat → List Command → ShellM Nat
  | 0, _ => return 1
  | _ + 1, [] => return 0
  | fuel + 1, [last] => asPart (atExit (run fuel last) fuel)
  | fuel + 1, stage :: rest => do
    let bytes ← collect (asPart (atExit (run fuel stage) fuel))
    keepingStreams [0] false do
      openAt 0 { place := .text bytes, reads := true }
      runStages fuel rest
termination_by structural fuel _ => fuel

/-- Runs the commands in the background that still wait, each in the state it was started in. -/
def runWaiting : Nat → ShellM Unit
  | 0 => pure ()
  | fuel + 1 => do
    let before ← get
    match before.waiting with
    | [] => pure ()
    | (number, body, start) :: _ =>
      set (before.back start)
      let code ← asPart do
        openAt 0 { place := .nowhere, reads := true }
        asCondition false (atExit (run fuel body) fuel)
      modify fun s => (s.back before).endJob number (.exited code)
      receiveSent
      runWaiting fuel
termination_by structural fuel => fuel

/-- Runs a command and remembers its code. A failure that nothing looks at can end the shell. -/
def run : Nat → Command → ShellM Nat
  | 0, _ => return 1
  | fuel + 1, command => do
    let s ← get
    if s.hasOption "noexec" then return s.status
    handleSignals fuel
    let code ← runCommand fuel command
    modify fun s => { s with status := code }
    failed code (endsOnFailure command)
    handleSignals fuel
    return (← get).status
termination_by structural fuel _ => fuel

def runCommand : Nat → Command → ShellM Nat
  | 0, _ => return 1
  | fuel + 1, command => do
    match command with
    | .nothing => return (← get).status
    | .simple line assignments words redirects =>
      modify fun s => { s with line }
      runSimple assignments words redirects fuel
    | .subshell line body redirects =>
      modify fun s => { s with line }
      let targets ← targetsOf fuel redirects
      runWaiting fuel
      let code ← asPart (atExit (do redirectAll false fuel targets; run fuel body) fuel)
      receiveSent
      return code
    | .redirected line body redirects =>
      modify fun s => { s with line }
      let targets ← targetsOf fuel redirects
      let refused : ShellM Nat := do
        failed 2 true
        return 2
      withTargets targets false refused (run fuel body) fuel
    | .background body =>
      modify fun s =>
        let number := toString (4712 + s.background.length)
        { s with
          background := (number, none) :: s.background
          waiting := s.waiting ++ [(number, body, s)] }
      return 0
    | .pipe stages =>
      runWaiting fuel
      let code ← runStages fuel stages
      receiveSent
      return code
    | .negate body => return codeOf ((← asCondition true (run fuel body)) ≠ 0)
    | .next first second =>
      let _ ← run fuel first
      run fuel second
    | .both first second =>
      let code ← asCondition true (run fuel first)
      if code = 0 then run fuel second else return code
    | .either first second =>
      let code ← asCondition true (run fuel first)
      if code = 0 then return code else run fuel second
    | .choice condition yes no =>
      if (← asCondition true (run fuel condition)) = 0 then run fuel yes
      else
        match no with
        | .nothing => return 0
        | no => run fuel no
    | .loop untilTrue condition body => asLoop (repeatLoop untilTrue condition body 0 fuel)
    | .each line name words body =>
      modify fun s => { s with line }
      let values ← match words with
        | some words => argumentsOf false fuel words
        | none => pure (← get).arguments
      asLoop (repeatEach name body 0 fuel values)
    | .select line word arms =>
      modify fun s => { s with line }
      let text := markText (← expand .single fuel word)
      runSelected text.toList fuel arms
    | .define name body =>
      modify fun s => { s with functions := (name, body) :: s.functions.filter (·.1 != name) }
      return 0
termination_by structural fuel _ => fuel

end

end TestBench.Shell
