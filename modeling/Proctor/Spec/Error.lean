import Proctor.Json.Fault

/-! What can be wrong with a test specification or a part of it. -/
namespace Proctor

inductive SpecError where
  | unknownType (name : String)
  | invalidParam (text : String)
  | invalidKey (key : String) (fault : Json.Fault)
  | invalidExpected (key : String) (fault : Json.Fault)
  | noFileName (path : String)
  | malformed (fault : Json.Fault)
deriving DecidableEq, Repr

def SpecError.message : SpecError → String
  | .unknownType name => s!"unknown parameter type '{name}'"
  | .invalidParam text => s!"invalid parameter '{text}': expected VALUE:TYPE"
  | .invalidKey key fault => s!"invalid parameter-list key '{key}': {fault.message}"
  | .invalidExpected key fault => s!"invalid expected output for '{key}': {fault.message}"
  | .noFileName path => s!"target path '{path}' has no file name"
  | .malformed fault => s!"malformed test specification: {fault.message}"

end Proctor
