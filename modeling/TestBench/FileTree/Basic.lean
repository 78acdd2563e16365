import TestBench.FileTree.Error
import TestBench.Script.Basic

/-! A tree of directories, files and symbolic links, and where a path in it leads. Entries are kept
by their location, the names from the root down; a path is read from left to right, and a link in it
is replaced by its target. -/
namespace TestBench

inductive Content where
  | bytes (bs : List UInt8)
  | script (steps : Script)
  deriving Inhabited

inductive Entry where
  | directory
  | file (content : Content)
  | link (target : String)
  deriving Inhabited

/-- The names on the way from the root to an entry. -/
abbrev Location := List String

/-- A file tree. The root is a directory without being among the entries. -/
structure FileTree where
  entries : List (Location × Entry) := []
  workingDirectory : Location := []

def pathParts : List Char → List (List Char)
  | [] => [[]]
  | c :: cs =>
    if c = '/' then [] :: pathParts cs
    else
      match pathParts cs with
      | [] => [[c]]
      | part :: parts => (c :: part) :: parts

/-- The names that a path is made of, with empty ones where slashes meet or stand at an end. -/
def pathNames (path : String) : List String :=
  (pathParts path.toList).map String.ofList

def isAbsolute (path : String) : Bool :=
  path.toList.head? == some '/'

namespace FileTree

def at? (tree : FileTree) (at_ : Location) : Option Entry :=
  if at_ = [] then some .directory else (tree.entries.find? (·.1 == at_)).map (·.2)

def isDirectoryAt (tree : FileTree) (at_ : Location) : Bool :=
  match tree.at? at_ with
  | some .directory => true
  | _ => false

def isHere (name : String) : Bool :=
  name.isEmpty || name == "."

/-- The longest name, in bytes. -/
def nameLimit : Nat := 255

/-- The number of links that one path may lead through. -/
def linkLimit : Nat := 40

/-- Where names lead from a location, and how many more links may follow. -/
def walk (tree : FileTree) (links : Nat) (here : Location) :
    List String → Except FileErrorKind (Location × Nat)
  | [] => .ok (here, links)
  | name :: rest =>
    if !tree.isDirectoryAt here then .error .notDirectory
    else if isHere name then tree.walk links here rest
    else if name == ".." then tree.walk links here.dropLast rest
    else if nameLimit < name.utf8ByteSize then .error .nameTooLong
    else
      match tree.at? (here ++ [name]) with
      | none => .error .noEntry
      | some (.link target) =>
        match links with
        | 0 => .error .linkLoop
        | links + 1 =>
          tree.walk links (if isAbsolute target then [] else here) (pathNames target ++ rest)
      | some _ => tree.walk links (here ++ [name]) rest
termination_by names => (links, names.length)

def start (tree : FileTree) (path : String) : Location :=
  if isAbsolute path then [] else tree.workingDirectory

def locate (tree : FileTree) (path : String) : Except FileErrorKind Location :=
  if path.isEmpty then .error .noEntry
  else (tree.walk linkLimit (tree.start path) (pathNames path)).map (·.1)

def lookup? (tree : FileTree) (path : String) : Option Entry :=
  match tree.locate path with
  | .ok at_ => tree.at? at_
  | .error _ => none

def read (tree : FileTree) (path : String) : Except FileError Content :=
  match tree.locate path with
  | .error kind => .error ⟨kind, path⟩
  | .ok at_ =>
    match tree.at? at_ with
    | some (.file content) => .ok content
    | some .directory => .error ⟨.isDirectory, path⟩
    | _ => .error ⟨.noEntry, path⟩

def put (tree : FileTree) (at_ : Location) (entry : Entry) : FileTree :=
  { tree with entries := (at_, entry) :: tree.entries.filter (·.1 != at_) }

/-- Where names lead from a location if a file of the last name may be created there. -/
def walkToCreate (tree : FileTree) (here : Location) (names : List String) :
    Nat → Except FileErrorKind Location
  | 0 => .error .linkLoop
  | links + 1 => do
    let (parent, _) ← tree.walk links here names.dropLast
    let name := names.getLastD ""
    if !tree.isDirectoryAt parent then .error .notDirectory
    else if isHere name || name == ".." then .error .isDirectory
    else if nameLimit < name.utf8ByteSize then .error .nameTooLong
    else
      match tree.at? (parent ++ [name]) with
      | some .directory => .error .isDirectory
      | some (.link target) =>
        tree.walkToCreate (if isAbsolute target then [] else parent) (pathNames target) links
      | _ => .ok (parent ++ [name])

/-- The location that a path leads to if a file there is to be written; the file need not exist. -/
def locateToCreate (tree : FileTree) (path : String) : Except FileError Location :=
  if path.isEmpty then .error ⟨.noEntry, path⟩
  else
    match tree.walkToCreate (tree.start path) (pathNames path) (linkLimit + 1) with
    | .ok at_ => .ok at_
    | .error kind => .error ⟨kind, path⟩

def bytesAt? (tree : FileTree) (at_ : Location) : Option (List UInt8) :=
  match tree.at? at_ with
  | some (.file (.bytes bs)) => some bs
  | some (.file (.script _)) => some []
  | _ => none

def truncate (tree : FileTree) (at_ : Location) : FileTree :=
  tree.put at_ (.file (.bytes []))

def writeAt (tree : FileTree) (at_ : Location) (offset : Nat) (bs : List UInt8) : FileTree :=
  let old := (tree.bytesAt? at_).getD []
  let before := old.take offset ++ List.replicate (offset - old.length) 0
  tree.put at_ (.file (.bytes (before ++ bs ++ old.drop (offset + bs.length))))

def makeDirectory (tree : FileTree) (at_ : Location) : FileTree :=
  if (tree.at? at_).isSome then tree else tree.put at_ .directory

def makeParents (tree : FileTree) (at_ : Location) : FileTree :=
  (List.range at_.length).foldl (fun tree k => tree.makeDirectory (at_.take k)) tree

/-- The location of a path that holds no links and no names for directories above. -/
def plainLocation (tree : FileTree) (path : String) : Location :=
  tree.start path ++ (pathNames path).filter (!isHere ·)

def add (tree : FileTree) (path : String) (entry : Entry) : FileTree :=
  let at_ := tree.plainLocation path
  (tree.makeParents at_).put at_ entry

def addDirectory (tree : FileTree) (path : String) : FileTree :=
  let at_ := tree.plainLocation path
  (tree.makeParents at_).makeDirectory at_

def empty (workingDirectory : Location) : FileTree :=
  { entries := [(workingDirectory, .directory)], workingDirectory }

end FileTree

end TestBench
