import Proctor.Literal.Token

/-! What can be wrong with a sequence of tokens. -/
namespace Proctor.Literal

/-- Something that must be closed, with the words for it and what may come next inside. -/
inductive Closing where
  | list
  | tuple
  | set
  | dict
  | call (name : String)
deriving DecidableEq, Repr

inductive ParseFault where
  | trailing (found : Kind)
  | tooDeep
  | identifier (name : String)
  | noValue (found : Kind)
  | noNumber (found : Kind)
  | mixedStrings
  | notClosed (what : Closing) (found : Kind)
  | noColon (found : Kind)
  | notDict (typeName : String)
  | notCollection (callee typeName : String)
deriving DecidableEq, Repr

def maxNesting : Nat := 256

def Closing.describe : Closing → String
  | .list => "',' or ']' to close list"
  | .tuple => "',' or ')' to close tuple"
  | .set => "',' or '\x7d' to close set"
  | .dict => "',' or '\x7d' to close dict"
  | .call name => s!"')' to close {name}(...)"

def ParseFault.message : ParseFault → String
  | .trailing found => s!"Unexpected trailing input: found {found.describe}"
  | .tooDeep => s!"Nesting too deep (more than {maxNesting} levels)"
  | .identifier name => s!"Unexpected identifier '{name}'"
  | .noValue found => s!"Expected a value, found {found.describe}"
  | .noNumber found => s!"Expected a number after sign, found {found.describe}"
  | .mixedStrings => "Cannot mix bytes and non-bytes literals"
  | .notClosed what found => s!"Expected {what.describe}, found {found.describe}"
  | .noColon found => s!"Expected ':' after dict key, found {found.describe}"
  | .notDict typeName => s!"Expected a dict inside dict(...), found {typeName}"
  | .notCollection callee typeName =>
    s!"Expected a collection inside {callee}(...), found {typeName}"

def ParseFault.hints : ParseFault → List String
  | .trailing _ => ["the output must contain exactly one value"]
  | .identifier _ =>
    ["only literal values can be normalized: None, True, False, numbers, strings, bytes, " ++
      "lists, tuples, dicts and sets"]
  | _ => []

end Proctor.Literal
