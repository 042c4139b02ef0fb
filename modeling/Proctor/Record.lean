import Proctor.Json.Decode

/-! Test records, their counts, and the result of one target. -/
namespace Proctor

open Json

/-- The outcome of one test case. A test passed exactly if there is no error. -/
structure Record where
  test : String
  received? : Option String
  error? : Option String
deriving DecidableEq, Repr, Inhabited

namespace Record

def passed (record : Record) : Bool := record.error?.isNone

def pass (test : String) (received? : Option String) : Record := ⟨test, received?, none⟩

def missingError : String := "test failed without an error message"

def fail (test : String) (received? error? : Option String) : Record :=
  ⟨test, received?, some (error?.getD missingError)⟩

def toJson (record : Record) : Json :=
  .object
    [("test", .string record.test), ("passed", .bool record.passed),
      ("received", .ofText? record.received?), ("error", .ofText? record.error?)]

def ofFields (test : String) (passed : Bool) (received? error? : Option String) :
    Except String Record :=
  if passed = error?.isSome then
    .error s!"record '{test}': error must be present exactly when the test failed"
  else .ok ⟨test, received?, error?⟩

structure Draft where
  test? : Option String
  passed? : Option Bool
  received? : Option (Option String)
  error? : Option (Option String)

def decodeText : Decoder String := fun _ => decodeString "a string"

def fields : List (Json.Field Draft) :=
  [⟨"test", false, (·.test?.isSome), fun room draft => do
      return { draft with test? := some (← decodeText room) }⟩,
    ⟨"passed", false, (·.passed?.isSome), fun room draft => do
      return { draft with passed? := some (← decodeBool room) }⟩,
    ⟨"received", true, (·.received?.isSome), fun room draft => do
      return { draft with received? := some (← decodeOptional decodeText room) }⟩,
    ⟨"error", true, (·.error?.isSome), fun room draft => do
      return { draft with error? := some (← decodeOptional decodeText room) }⟩]

def decode : Decoder Record := fun room => do
  let draft ← decodeStructure "struct RawRecord" fields ⟨none, none, none, none⟩ room
  match ofFields (draft.test?.getD "") (draft.passed?.getD false) (draft.received?.getD none)
      (draft.error?.getD none) with
  | .ok record => return record
  | .error reason => throw (.refused reason)

end Record

structure Summary where
  total : Nat
  passed : Nat
  failed : Nat
deriving DecidableEq, Repr, Inhabited

namespace Summary

def empty : Summary := ⟨0, 0, 0⟩

def passRate (summary : Summary) : Nat :=
  if summary.total = 0 then 0 else summary.passed * 100 / summary.total

def merge (a b : Summary) : Summary :=
  ⟨a.total + b.total, a.passed + b.passed, a.failed + b.failed⟩

def toJson (summary : Summary) : Json :=
  .object
    [("total", .int summary.total), ("passed", .int summary.passed),
      ("failed", .int summary.failed)]

structure Draft where
  total? : Option Nat
  passed? : Option Nat
  failed? : Option Nat

def fields : List (Json.Field Draft) :=
  [⟨"total", false, (·.total?.isSome), fun room draft => do
      return { draft with total? := some (← decodeCount room) }⟩,
    ⟨"passed", false, (·.passed?.isSome), fun room draft => do
      return { draft with passed? := some (← decodeCount room) }⟩,
    ⟨"failed", false, (·.failed?.isSome), fun room draft => do
      return { draft with failed? := some (← decodeCount room) }⟩]

def decode : Decoder Summary := fun room => do
  let draft ← decodeStructure "struct Summary" fields ⟨none, none, none⟩ room
  return ⟨draft.total?.getD 0, draft.passed?.getD 0, draft.failed?.getD 0⟩

end Summary

/-- The records of one target with their summary. -/
structure Result where
  records : List Record
  summary : Summary
deriving DecidableEq, Repr, Inhabited

namespace Result

def toJson (result : Result) : Json :=
  .object
    [("results", .array (result.records.map Record.toJson)), ("summary", result.summary.toJson)]

structure Draft where
  records? : Option (List Record)
  summary? : Option Summary

def fields : List (Json.Field Draft) :=
  [⟨"results", false, (·.records?.isSome), fun room draft => do
      return { draft with records? := some (← decodeList Record.decode room) }⟩,
    ⟨"summary", false, (·.summary?.isSome), fun room draft => do
      return { draft with summary? := some (← Summary.decode room) }⟩]

def decode : Decoder Result := fun room => do
  let draft ← decodeStructure "struct AggregatedResult" fields ⟨none, none⟩ room
  return ⟨draft.records?.getD [], draft.summary?.getD .empty⟩

end Result

def aggregate (records : List Record) : Result :=
  let passed := records.countP Record.passed
  ⟨records, ⟨records.length, passed, records.length - passed⟩⟩

end Proctor
