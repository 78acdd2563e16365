import TestBench.Shell.ByteText

/-! Programs show the name of a file so that the shell would read it as that name: between quotes if
a character in it means something to the shell, and with escapes for characters that cannot be
shown. -/
namespace TestBench.Shell

def meaningfulChars : List Char :=
  [' ', '!', '\x22', '$', '&', '(', ')', '*', ';', '<', '=', '>', '?', '[', '\\', '^', '\x60', '|',
    '\x27']

def isControlChar (c : Char) : Bool :=
  c.toNat < 32 || c.toNat = 127

def needsQuotes (name : List Char) : Bool :=
  name.isEmpty || name.any (fun c => meaningfulChars.contains c || isControlChar c) ||
    name.head?.any ['#', '~'].contains || name = ['\x7b'] || name = ['\x7d']

def isPlainBetweenQuotes (c : Char) : Bool :=
  c.isAlphanum || 128 ≤ c.toNat ||
    [' ', '\x27', '%', '+', ',', '-', '.', '/', ':', '@', ']', '_'].contains c

def isPlainName : List Char → Bool
  | [] => true
  | c :: cs => (isPlainBetweenQuotes c || ['#', '~'].contains c) && cs.all isPlainBetweenQuotes

def controlEscape (c : Char) : List Char :=
  match [('\x07', 'a'), ('\x08', 'b'), ('\x0c', 'f'), ('\n', 'n'), ('\r', 'r'), ('\t', 't'),
      ('\x0b', 'v')].lookup c with
  | some letter => ['\\', letter]
  | none =>
    let digit (n : Nat) : Char := Char.ofNat (48 + n % 8)
    ['\\', digit (c.toNat / 64), digit (c.toNat / 8), digit c.toNat]

/-- Characters between single quotes, `inEscape` telling that escapes are being written. -/
def escapedName (inEscape : Bool) : List Char → List Char
  | [] => ['\x27']
  | c :: cs =>
    if isControlChar c then
      (if inEscape then [] else ['\x27', '$', '\x27']) ++ controlEscape c ++ escapedName true cs
    else
      (if inEscape then ['\x27', '\x27'] else []) ++
        (if c = '\x27' then ['\x27', '\\', '\x27', '\x27'] else [c]) ++ escapedName false cs

def quotedName (name : String) : String :=
  let cs := name.toList
  String.ofList
    (if cs.contains '\x27' && isPlainName cs then '\x22' :: cs ++ ['\x22']
    else '\x27' :: escapedName false cs)

def shownName (name : String) : String :=
  if needsQuotes name.toList then quotedName name else name

end TestBench.Shell
