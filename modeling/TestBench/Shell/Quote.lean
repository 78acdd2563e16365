/-! A word is written so that the shell reads it back: as it is if all its characters are safe, else
between single quotes, a single quote in it being written between double quotes. -/
namespace TestBench.Shell

/-- Whether a character means nothing but itself to the shell, wherever it stands. -/
def isSafe (c : Char) : Bool :=
  c.isAlphanum || ['_', '@', '%', '+', '=', ':', ',', '.', '/', '-'].contains c

/-- A single quote between double quotes, with the single quotes before and after it closed and
opened. -/
def quotedQuote : List Char :=
  ['\x27', '\x22', '\x27', '\x22', '\x27']

def quoteChar (c : Char) : List Char :=
  if c = '\x27' then quotedQuote else [c]

def quote (word : List Char) : List Char :=
  if word.isEmpty then ['\x27', '\x27']
  else if word.all isSafe then word
  else '\x27' :: word.flatMap quoteChar ++ ['\x27']

def commandLine (words : List String) : String :=
  String.ofList ([' '].intercalate (words.map fun w => quote w.toList))

end TestBench.Shell
