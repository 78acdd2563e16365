/-! The table of flags: how each is spelled, what it takes, and what the help says about it. -/
namespace TestBench.CommandLine

inductive Flag where
  | help
  | file
  | logfile
  | output
  | mailTo
  | config
  | jobs
  | pattern
  | list
  deriving DecidableEq, Repr

namespace Flag

def all : List Flag :=
  [.help, .file, .logfile, .output, .mailTo, .config, .jobs, .pattern, .list]

def spellings : Flag → List String
  | .help => ["-h", "--help"]
  | .file => ["-f", "--file"]
  | .logfile => ["-l", "--logfile"]
  | .output => ["-o", "--output"]
  | .mailTo => ["-m", "--mail-to"]
  | .config => ["-c", "--config"]
  | .jobs => ["-j", "--jobs"]
  | .pattern => ["--match"]
  | .list => ["--list"]

def placeholder : Flag → Option String
  | .help | .list => none
  | .file => some "TEST"
  | .logfile => some "LOG_FILE"
  | .output => some "OUTPUT_FILE"
  | .mailTo => some "MAIL_ADDRESS"
  | .config => some "CONFIG"
  | .jobs => some "JOBS"
  | .pattern => some "MATCH"

def description : Flag → String
  | .help => "show this help message and exit"
  | .file => "use tests from file (repeatable; *.py files are DSL scripts)"
  | .logfile => "set the log file for the tests (default: stderr)"
  | .output => "set the output file for the tests (default: stdout)"
  | .mailTo => "mail the output results to address (not supported)"
  | .config => "YAML configuration file"
  | .jobs => "number of tests to run in parallel"
  | .pattern => "only run tests whose path contains this substring (repeatable)"
  | .list => "list the discovered tests and exit"

def takesValue (f : Flag) : Bool :=
  f.placeholder.isSome

def name (f : Flag) : String :=
  "/".intercalate f.spellings

def table : List (String × Flag) :=
  all.flatMap fun f => f.spellings.map fun s => (s, f)

def ofSpelling? (s : String) : Option Flag :=
  (table.find? (·.1 == s)).map (·.2)

end Flag

end TestBench.CommandLine
