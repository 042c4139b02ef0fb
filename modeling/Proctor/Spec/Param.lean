import Proctor.Spec.ValueType
import Proctor.Text.Segments

/-! Typed values, which are the parameters and the expected output of a test case, and the keys
that encode lists of parameters. -/
namespace Proctor

/-- A value as text, with its declared type. -/
structure TypedValue where
  value : String
  type : ValueType
deriving DecidableEq, Repr, Inhabited

namespace TypedValue

def ofText (text : String) : Except SpecError TypedValue :=
  match Text.cutLast? ':' text.toList with
  | none => .error (.invalidParam text)
  | some (value, type) => (ValueType.ofName (String.ofList type)).map (⟨String.ofList value, ·⟩)

def toJson (value : TypedValue) : Json :=
  .array [.string value.value, .string value.type.name]

open Json in
def decode : Decoder TypedValue := fun room => do
  let (value, type) ← decodePair (fun _ => decodeString "a string") ValueType.decode room
  return ⟨value, type⟩

def textOf : Json → Except Json.Fault String
  | .string text => .ok text
  | other => .error (.wrongType other.found "a string")

def ofJson (json : Json) : Except Json.Fault TypedValue :=
  let wanted := "a tuple of size 2"
  match json with
  | .array items =>
    match items with
    | [] => .error (.wrongLength 0 wanted)
    | value :: rest => do
      let value ← textOf value
      match rest with
      | [] => .error (.wrongLength 1 wanted)
      | type :: others =>
        match ValueType.ofName (← textOf type) with
        | .error error => .error (.refused error.message)
        | .ok type =>
          if others = [] then .ok ⟨value, type⟩
          else .error (.wrongLength items.length "fewer elements in array")
  | other => .error (.wrongType other.found wanted)

end TypedValue

abbrev Params := List TypedValue

namespace Params

def toKey (params : Params) : String := (Json.array (params.map TypedValue.toJson)).toText

def ofKey (key : String) : Except SpecError Params :=
  match Json.decode (Json.decodeList TypedValue.decode) key with
  | .ok params => .ok params
  | .error fault => .error (.invalidKey key fault)

end Params
end Proctor
