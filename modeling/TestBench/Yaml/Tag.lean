import TestBench.Yaml.Scalar.Pattern

/-! A tag says what a node stands for. A node can be given one; a plain scalar without one gets the
tag of the first form that its text has. -/
namespace TestBench.Yaml

inductive Tag where
  | null
  | bool
  | int
  | float
  | text
  | binary
  | timestamp
  | sequence
  | orderedMap
  | pairs
  | mapping
  | set
  | merge
  /-- The key for the value that a mapping has by itself. -/
  | default
  | unknown
  deriving DecidableEq, Repr, Inhabited

namespace Tag

def stem : String := "tag:yaml.org,2002:"

def table : List (String × Tag) :=
  [("null", .null), ("bool", .bool), ("int", .int), ("float", .float), ("str", .text),
    ("binary", .binary), ("timestamp", .timestamp), ("seq", .sequence), ("omap", .orderedMap),
    ("pairs", .pairs), ("map", .mapping), ("set", .set), ("merge", .merge), ("value", .default)]

def ofName (name : String) : Tag :=
  ((table.find? fun entry => stem ++ entry.1 == name).map (·.2)).getD .unknown

def ofPlain (cs : List Char) : Tag :=
  if Pattern.isBool cs then .bool
  else if Pattern.isFloat cs then .float
  else if Pattern.isInt cs then .int
  else if Pattern.isMerge cs then .merge
  else if Pattern.isNull cs then .null
  else if Pattern.isTimestamp cs then .timestamp
  else if Pattern.isDefault cs then .default
  else if Pattern.isIndicator cs then .unknown
  else .text

/-- Whether the nodes of the tag hold others and can change, so that they are no keys. -/
def isCollection : Tag → Bool
  | .sequence | .orderedMap | .pairs | .mapping | .set => true
  | _ => false

end Tag

end TestBench.Yaml
