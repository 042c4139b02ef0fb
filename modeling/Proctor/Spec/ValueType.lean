import Proctor.Json.Decode
import Proctor.Spec.Error

/-! The types that a parameter or an expected output may declare, with their names. -/
namespace Proctor

inductive ValueType where
  | any
  | int
  | float
  | str
  | list
  | dict
  | tuple
  | bool
  | set
  | none
  | bytes
  | error
deriving DecidableEq, Repr, Inhabited

namespace ValueType

def all : List ValueType :=
  [.any, .int, .float, .str, .list, .dict, .tuple, .bool, .set, .none, .bytes, .error]

def name : ValueType → String
  | .any => "any"
  | .int => "int"
  | .float => "float"
  | .str => "str"
  | .list => "list"
  | .dict => "dict"
  | .tuple => "tuple"
  | .bool => "bool"
  | .set => "set"
  | .none => "NoneType"
  | .bytes => "bytes"
  | .error => "error"

def aliases : ValueType → List String
  | .int => ["integer"]
  | .float => ["double"]
  | .str => ["string", "text"]
  | .list => ["sequence"]
  | .dict => ["mapping", "map"]
  | .tuple => ["fixed-tuple"]
  | .bool => ["boolean"]
  | .none => ["none", "None", "null"]
  | .error => ["exception"]
  | _ => []

def ofName? (name : String) : Option ValueType :=
  all.find? fun type => type.name == name || type.aliases.contains name

def ofName (name : String) : Except SpecError ValueType :=
  match ofName? name with
  | some type => .ok type
  | .none => .error (.unknownType name)

def takesNoValue (type : ValueType) : Bool := type == .none

open Json in
def decode : Decoder ValueType := fun _ => do
  match ofName (← decodeString "a string") with
  | .ok type => return type
  | .error problem => throw (.refused problem.message)

end ValueType
end Proctor
