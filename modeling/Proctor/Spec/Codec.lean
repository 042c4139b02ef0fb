import Proctor.Spec.Basic

/-! The JSON form of a test specification, which is also the request that a run hands to the
interpreter. -/
namespace Proctor

open Json

def Targets.decode : Decoder Targets := fun room => do
  match Targets.ofMembers (← decodeMap room) with
  | .ok targets => return targets
  | .error fault => throw fault

namespace Specification

def casesOfMembers (members : List (String × Json)) : Except Fault (List (Params × TypedValue)) :=
  members.mapM fun (key, value) =>
    match Params.ofKey key with
    | .error error => .error (.refused error.message)
    | .ok params =>
      match TypedValue.ofJson value with
      | .error fault => .error (.refused (SpecError.invalidExpected key fault).message)
      | .ok expected => .ok (params, expected)

def decodeCases : Decoder (List (Params × TypedValue)) := fun room => do
  match casesOfMembers (← decodeMap room) with
  | .ok cases => return cases
  | .error fault => throw fault

structure Draft where
  function? : Option String
  cases? : Option (List (Params × TypedValue))
  targets? : Option Targets

def fields : List (Json.Field Draft) :=
  [⟨"testfunc", false, (·.function?.isSome), fun _ draft => do
      return { draft with function? := some (← decodeString "a string") }⟩,
    ⟨"tests", true, (·.cases?.isSome), fun room draft => do
      return { draft with cases? := some (← decodeCases room) }⟩,
    ⟨"scriptPaths", true, (·.targets?.isSome), fun room draft => do
      return { draft with targets? := some (← Targets.decode room) }⟩]

def decode : Decoder Specification := fun room => do
  let draft ← decodeStructure "struct TestSpecification" fields ⟨none, none, none⟩ room
  return ⟨draft.function?.getD "", draft.cases?.getD [], draft.targets?.getD []⟩

def toJson (spec : Specification) : Json :=
  .object
    [("testfunc", .string spec.function),
      ("tests", .object (spec.cases.map fun (params, expected) =>
        (Params.toKey params, expected.toJson))),
      ("scriptPaths", spec.targets.toJson)]

def toText (spec : Specification) : String := spec.toJson.toPrettyText

def ofText (text : String) : Except SpecError Specification :=
  match Json.decode decode text with
  | .ok spec => .ok spec
  | .error fault => .error (.malformed fault)

end Specification
end Proctor
