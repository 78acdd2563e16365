import TestBench.Yaml.Node.Graph
import TestBench.Yaml.Token.Stream

/-! A node is read from the tokens of a text, which are asked for one after the other, so that of
several faults the first one counts. A node that is given a name can be used again from there on: a
collection also inside itself, since it gets its number before what it holds is read. -/
namespace TestBench.Yaml

structure NodeState where
  tokens : TokenStream
  graph : Graph := {}
  named : List (String × NodeId) := []

abbrev NodeReader := StateT NodeState (Except Fault)

namespace NodeReader

def peek : NodeReader Token := do
  let s ← get
  match s.tokens.next with
  | .ok (token, tokens) =>
    set { s with tokens }
    return token
  | .error flaw => throw (flaw.toFault s.tokens.stop)

def pass : NodeReader Unit :=
  modify fun s => { s with tokens := s.tokens.take }

def invalid {α : Type} : NodeReader α :=
  throw Fault.invalidYaml

def expect (t : Token) : NodeReader Unit := do
  if (← peek) = t then pass else invalid

def add (name : Option String) (n : Node) : NodeReader NodeId := do
  let id := (← get).graph.size
  let entry := (name.map fun name => (name, id)).toList
  modify fun s => { s with graph := s.graph.add n, named := entry ++ s.named }
  return id

def addEmpty : NodeReader NodeId :=
  add none Node.empty

def fill (id : NodeId) (body : NodeBody) : NodeReader NodeId := do
  modify fun s => { s with graph := s.graph.setBody id body }
  return id

def named (name : String) : NodeReader NodeId := do
  match (← get).named.lookup name with
  | some id => return id
  | none => invalid

def checkUnnamed (name : Option String) : NodeReader Unit := do
  let known := (← get).named
  if name.any fun name => (known.lookup name).isSome then invalid

end NodeReader

abbrev Handles := List (String × String)

def Handles.common : Handles :=
  [("!", "!"), ("!!", Tag.stem)]

/-- What is said about a node before it: its name, and the name of its tag. -/
structure Properties where
  anchor : Option String := none
  tag : Option String := none

namespace Properties

def isEmpty (p : Properties) : Bool :=
  p.anchor.isNone && p.tag.isNone

/-- Whether the tag is left to the form of the text. -/
def isOpen (p : Properties) : Bool :=
  p.tag == some "!"

def scalarTag (p : Properties) (text : String) (plain : Bool) : Tag :=
  match p.tag with
  | none => if plain then Tag.ofPlain text.toList else .text
  | some name => if p.isOpen then Tag.ofPlain text.toList else Tag.ofName name

def collectionTag (p : Properties) (usual : Tag) : Tag :=
  match p.tag with
  | none => usual
  | some name => if p.isOpen then usual else Tag.ofName name

end Properties

namespace NodeReader

def tag? : NodeReader (Option (Option String × String)) := do
  match ← peek with
  | .tag handle rest =>
    pass
    return some (handle, rest)
  | _ => return none

def anchor? : NodeReader (Option String) := do
  match ← peek with
  | .anchor name =>
    pass
    return some name
  | _ => return none

def tagName (handles : Handles) : Option String × String → NodeReader String
  | (none, rest) => return rest
  | (some handle, rest) =>
    match handles.lookup handle with
    | some stem => return stem ++ rest
    | none => invalid

def properties (handles : Handles) : NodeReader Properties := do
  let first ← anchor?
  let tag ← tag?
  let anchor ← if first.isNone && tag.isSome then anchor? else pure first
  return ⟨anchor, ← tag.mapM (tagName handles)⟩

def endsEntry : Token → Bool
  | .key | .value | .blockEnd => true
  | _ => false

def endsItemOf (open_ : Bool) : Token → Bool
  | .item | .blockEnd => true
  | .key | .value => open_
  | _ => false

def endsInside (close : Token) (t : Token) : Bool :=
  t = .comma || t = close

mutual

/-- Reads a node. `block` allows it to be a block of its own, `flat` a sequence whose items are
indented like the mapping around it. -/
def node (handles : Handles) (block flat : Bool) : Nat → NodeReader NodeId
  | 0 => invalid
  | fuel + 1 => do
    match ← peek with
    | .reference name =>
      pass
      named name
    | _ => content handles block flat (← properties handles) fuel
termination_by structural fuel => fuel

def content (handles : Handles) (block flat : Bool) (p : Properties) : Nat → NodeReader NodeId
  | 0 => invalid
  | fuel + 1 => do
    let t ← peek
    let sequence : NodeReader NodeId := do
      checkUnnamed p.anchor
      add p.anchor ⟨p.collectionTag .sequence, .sequence []⟩
    let mapping : NodeReader NodeId := do
      checkUnnamed p.anchor
      add p.anchor ⟨p.collectionTag .mapping, .mapping []⟩
    match t with
    | .scalar text plain =>
      checkUnnamed p.anchor
      pass
      add p.anchor ⟨p.scalarTag text plain, .scalar text⟩
    | .openBracket =>
      let id ← sequence
      pass
      fill id (.sequence (← bracketItems handles [] fuel))
    | .openBrace =>
      let id ← mapping
      pass
      fill id (.mapping (← braceEntries handles [] fuel))
    | t =>
      if t = .item ∧ flat then
        let id ← sequence
        fill id (.sequence (← blockItems handles true [] fuel))
      else if t = .sequenceStart ∧ block then
        let id ← sequence
        pass
        fill id (.sequence (← blockItems handles false [] fuel))
      else if t = .mappingStart ∧ block then
        let id ← mapping
        pass
        fill id (.mapping (← blockEntries handles [] fuel))
      else if p.isEmpty then invalid
      else
        checkUnnamed p.anchor
        add p.anchor ⟨p.scalarTag "" true, .scalar ""⟩
termination_by structural fuel => fuel

/-- Reads the items of a sequence of a block behind those that were read, the last one first; one
that is `open_` has no end of its own. -/
def blockItems (handles : Handles) (open_ : Bool) (read : List NodeId) :
    Nat → NodeReader (List NodeId)
  | 0 => invalid
  | fuel + 1 => do
    match ← peek with
    | .item =>
      pass
      let id ← if endsItemOf open_ (← peek) then addEmpty else node handles true false fuel
      blockItems handles open_ (id :: read) fuel
    | t =>
      if open_ then return read.reverse
      else if t = .blockEnd then
        pass
        return read.reverse
      else invalid
termination_by structural fuel => fuel

def blockEntries (handles : Handles) (read : List (NodeId × NodeId)) :
    Nat → NodeReader (List (NodeId × NodeId))
  | 0 => invalid
  | fuel + 1 => do
    match ← peek with
    | .key =>
      pass
      let k ← if endsEntry (← peek) then addEmpty else node handles true true fuel
      let v ← blockValue handles fuel
      blockEntries handles ((k, v) :: read) fuel
    | .blockEnd =>
      pass
      return read.reverse
    | _ => invalid
termination_by structural fuel => fuel

def blockValue (handles : Handles) : Nat → NodeReader NodeId
  | 0 => invalid
  | fuel + 1 => do
    if (← peek) = .value then
      pass
      if endsEntry (← peek) then addEmpty else node handles true true fuel
    else addEmpty
termination_by structural fuel => fuel

/-- Reads the items between square brackets behind those that were read, the last one first; only
the first needs no comma before it. -/
def bracketItems (handles : Handles) (read : List NodeId) : Nat → NodeReader (List NodeId)
  | 0 => invalid
  | fuel + 1 => do
    if (← peek) = .closeBracket then
      pass
      return read.reverse
    else
      if !read.isEmpty then expect .comma
      match ← peek with
      | .key =>
        let id ← add none ⟨.mapping, .mapping []⟩
        pass
        let k ← bracketPart handles .value .closeBracket fuel
        let v ← bracketValue handles .closeBracket fuel
        let id ← fill id (.mapping [(k, v)])
        bracketItems handles (id :: read) fuel
      | .closeBracket =>
        pass
        return read.reverse
      | _ =>
        let id ← node handles false false fuel
        bracketItems handles (id :: read) fuel
termination_by structural fuel => fuel

def braceEntries (handles : Handles) (read : List (NodeId × NodeId)) :
    Nat → NodeReader (List (NodeId × NodeId))
  | 0 => invalid
  | fuel + 1 => do
    if (← peek) = .closeBrace then
      pass
      return read.reverse
    else
      if !read.isEmpty then expect .comma
      match ← peek with
      | .key =>
        pass
        let k ← bracketPart handles .value .closeBrace fuel
        let v ← bracketValue handles .closeBrace fuel
        braceEntries handles ((k, v) :: read) fuel
      | .closeBrace =>
        pass
        return read.reverse
      | _ =>
        let k ← node handles false false fuel
        let v ← addEmpty
        braceEntries handles ((k, v) :: read) fuel
termination_by structural fuel => fuel

/-- Reads a node inside brackets that may not be written, if `stop`, a comma or the closing bracket
comes next. -/
def bracketPart (handles : Handles) (stop close : Token) : Nat → NodeReader NodeId
  | 0 => invalid
  | fuel + 1 => do
    let t ← peek
    if t = stop ∨ endsInside close t then addEmpty else node handles false false fuel
termination_by structural fuel => fuel

def bracketValue (handles : Handles) (close : Token) : Nat → NodeReader NodeId
  | 0 => invalid
  | fuel + 1 => do
    if (← peek) = .value then
      pass
      bracketPart handles close close fuel
    else addEmpty
termination_by structural fuel => fuel

end

/-- Reads at most `fuel` directives before a document; `seen` tells that the version was given. -/
def directives (seen : Bool) (handles : Handles) : Nat → NodeReader Handles
  | 0 => invalid
  | fuel + 1 => do
    match ← peek with
    | .directive d =>
      pass
      match d with
      | .version major =>
        if seen ∨ major ≠ 1 then invalid else directives true handles fuel
      | .handle name stem =>
        if (handles.lookup name).isSome then invalid
        else directives seen ((name, stem) :: handles) fuel
      | .other => directives seen handles fuel
    | _ => return handles ++ Handles.common

def endsContent : Token → Bool
  | .directive _ | .documentStart | .documentEnd | .textEnd => true
  | _ => false

def announcedContent (handles : Handles) (fuel : Nat) : NodeReader NodeId := do
  if endsContent (← peek) then addEmpty else node handles true false fuel

def passEnds : Nat → NodeReader Unit
  | 0 => invalid
  | fuel + 1 => do
    if (← peek) = .documentEnd then
      pass
      passEnds fuel

/-- Reads what follows a document, which is the only one: nothing but marks of its end. What begins
another one is read up to the mark of its start. -/
def finish (fuel : Nat) : NodeReader Unit := do
  passEnds fuel
  if (← peek) ≠ .textEnd then
    let _ ← directives false [] fuel
    invalid

def document (fuel : Nat) : NodeReader (Option NodeId) := do
  match ← peek with
  | .textEnd => return none
  | .directive _ | .documentStart =>
    let handles ← directives false [] fuel
    expect .documentStart
    let id ← announcedContent handles fuel
    finish fuel
    return some id
  | _ =>
    let id ← node Handles.common true false fuel
    finish fuel
    return some id

end NodeReader

/-- The nodes that a text writes, and which of them is the root, if it writes any. Every token comes
from a character or ends what one began, and is read in a bounded number of steps. -/
def nodesOf (s : Source) : Except Fault (Option NodeId × Graph) := do
  let tokens := TokenStream.ofSource s
  let (root, state) ← (NodeReader.document (16 * tokens.size + 16)).run { tokens }
  return (root, state.graph)

end TestBench.Yaml
