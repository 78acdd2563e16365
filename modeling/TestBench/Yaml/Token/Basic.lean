/-! Tokens are the parts that a text is made of. Brackets and signs stand in the text; the start and
end of a block, which the text shows by indentation, and the sign before a key, which need not be
written, are tokens too. -/
namespace TestBench.Yaml

inductive Directive where
  | version (major : Nat)
  | handle (name stem : String)
  | other
  deriving DecidableEq, Repr

inductive Token where
  | textEnd
  | directive (d : Directive)
  | documentStart
  | documentEnd
  | sequenceStart
  | mappingStart
  | blockEnd
  | openBracket
  | closeBracket
  | openBrace
  | closeBrace
  | comma
  | item
  | key
  | value
  | reference (name : String)
  | anchor (name : String)
  | tag (handle : Option String) (rest : String)
  | scalar (text : String) (plain : Bool)
  deriving DecidableEq, Repr

end TestBench.Yaml
