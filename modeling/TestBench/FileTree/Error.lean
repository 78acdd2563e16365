import TestBench.Text.Quoted

/-! Errors of the file system. -/
namespace TestBench

inductive FileErrorKind where
  | noEntry
  | notDirectory
  | isDirectory
  | nameTooLong
  | linkLoop
  deriving DecidableEq, Repr

namespace FileErrorKind

def number : FileErrorKind → Nat
  | .noEntry => 2
  | .notDirectory => 20
  | .isDirectory => 21
  | .nameTooLong => 36
  | .linkLoop => 40

def description : FileErrorKind → String
  | .noEntry => "No such file or directory"
  | .notDirectory => "Not a directory"
  | .isDirectory => "Is a directory"
  | .nameTooLong => "File name too long"
  | .linkLoop => "Too many levels of symbolic links"

end FileErrorKind

structure FileError where
  kind : FileErrorKind
  path : String
  deriving DecidableEq, Repr

namespace FileError

def message (e : FileError) : String :=
  "[Errno " ++ toString e.kind.number ++ "] " ++ e.kind.description ++ ": " ++ Text.quoted e.path

end FileError

end TestBench
