import Proctor.Json.Printer
import Proctor.Text.Utf8

/-! Literal values, as an interpreter prints them, and the JSON value of each. -/
namespace Proctor

inductive Literal where
  | null
  | bool (value : Bool)
  | int (value : Int)
  | float (value : Binary64)
  | text (value : String)
  | bytes (value : List UInt8)
  | list (items : List Literal)
  | tuple (items : List Literal)
  | set (items : List Literal)
  | dict (entries : List (Literal × Literal))
deriving Repr, Inhabited

namespace Literal

def typeName : Literal → String
  | .null => "NoneType"
  | .bool _ => "bool"
  | .int _ => "int"
  | .float _ => "float"
  | .text _ => "str"
  | .bytes _ => "bytes"
  | .list _ => "list"
  | .tuple _ => "tuple"
  | .set _ => "set"
  | .dict _ => "dict"

def floatJson (x : Binary64) : Json :=
  if x.isFinite then .float x
  else if x.isNaN then .string "nan"
  else if x.negative then .string "-inf"
  else .string "inf"

def intJson (n : Int) : Json :=
  if -9223372036854775808 ≤ n ∧ n ≤ 18446744073709551615 then .int n else floatJson (.ofInt n)

def bytesText (bytes : List UInt8) : String := String.ofList (Text.Utf8.decodeLossy bytes)

mutual
/-- The JSON value of a literal. Tuples and sets become arrays; of entries with one key the last
counts, in the place of the first. -/
def toJson : Literal → Json
  | .null => .null
  | .bool value => .bool value
  | .int value => intJson value
  | .float value => floatJson value
  | .text value => .string value
  | .bytes value => .string (bytesText value)
  | .list items => .array (allToJson items)
  | .tuple items => .array (allToJson items)
  | .set items => .array (allToJson items)
  | .dict entries => .object (OrderedMap.ofPairs (entriesToJson entries))

def allToJson : List Literal → List Json
  | [] => []
  | item :: rest => toJson item :: allToJson rest

def entriesToJson : List (Literal × Literal) → List (String × Json)
  | [] => []
  | entry :: rest => entryToJson entry :: entriesToJson rest

def entryToJson : Literal × Literal → String × Json
  | (.text name, value) => (name, toJson value)
  | (.bytes name, value) => (bytesText name, toJson value)
  | (key, value) => ((toJson key).toText, toJson value)
end

end Literal
end Proctor
