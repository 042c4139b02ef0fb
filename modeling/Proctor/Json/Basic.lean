import Proctor.Number.Binary64
import Proctor.OrderedMap

/-! JSON values. Integers and floating point numbers are told apart, and an object keeps the order
of its members. -/
namespace Proctor

inductive Json where
  | null
  | bool (value : Bool)
  | int (value : Int)
  | float (value : Binary64)
  | string (text : String)
  | array (items : List Json)
  | object (members : List (String × Json))
deriving Repr, Inhabited

namespace Json

def field? (name : String) : Json → Option Json
  | .object members => OrderedMap.get? name members
  | _ => none

def ofText? : Option String → Json
  | none => .null
  | some text => .string text

mutual
/-- The value in which every object has one member per name: the first place, the last value. -/
def settle : Json → Json
  | .array items => .array (settleAll items)
  | .object members => .object (OrderedMap.ofPairs (settleMembers members))
  | value => value

def settleAll : List Json → List Json
  | [] => []
  | item :: rest => settle item :: settleAll rest

def settleMembers : List (String × Json) → List (String × Json)
  | [] => []
  | member :: rest => settleMember member :: settleMembers rest

def settleMember : String × Json → String × Json
  | (name, value) => (name, settle value)
end

end Json
end Proctor
