import Proctor.Record

/-! The outcome of each target and the report of a run, with their JSON forms. -/
namespace Proctor

open Json

inductive Outcome where
  | completed (result : Result)
  | failed (error : String)
deriving DecidableEq, Repr, Inhabited

/-! ### Values that are already read -/

namespace Json

/-- The values of the fields of a structure, some of them absent. An object must not repeat a field;
a list gives the fields in order. The first `required` fields must be present. -/
def fieldValues? (names : List String) (required : Nat) : Json → Option (List (Option Json))
  | .array items =>
    if required ≤ items.length ∧ items.length ≤ names.length then
      some (items.map some ++ List.replicate (names.length - items.length) none)
    else none
  | .object members => do
    let values ← names.mapM fun name =>
      match members.filter (·.1 == name) with
      | [] => some none
      | [(_, value)] => some (some value)
      | _ => none
    if (values.take required).all Option.isSome then some values else none
  | _ => none

def text? : Json → Option String
  | .string text => some text
  | _ => none

def bool? : Json → Option Bool
  | .bool value => some value
  | _ => none

def count? : Json → Option Nat
  | .int n => if n < 0 then none else some n.toNat
  | _ => none

def optionalText? : Option Json → Option (Option String)
  | none => some none
  | some .null => some none
  | some value => (text? value).map some

end Json

def Record.ofJson? (json : Json) : Option Record := do
  match ← fieldValues? ["test", "passed", "received", "error"] 2 json with
  | [some test, some passed, received, error] =>
    (Record.ofFields (← text? test) (← bool? passed) (← optionalText? received)
      (← optionalText? error)).toOption
  | _ => none

def Summary.ofJson? (json : Json) : Option Summary := do
  match ← fieldValues? ["total", "passed", "failed"] 3 json with
  | [some total, some passed, some failed] =>
    return ⟨← count? total, ← count? passed, ← count? failed⟩
  | _ => none

def Result.ofJson? (json : Json) : Option Result := do
  match ← fieldValues? ["results", "summary"] 2 json with
  | [some (.array records), some summary] =>
    return ⟨← records.mapM Record.ofJson?, ← Summary.ofJson? summary⟩
  | _ => none

/-! ### Outcomes -/

namespace Outcome

def error? : Outcome → Option String
  | .failed error => some error
  | .completed _ => none

def result? : Outcome → Option Result
  | .completed result => some result
  | .failed _ => none

def toJson : Outcome → Json
  | .completed result => result.toJson
  | .failed error => .object [("error", .string error)]

def errorOf? : Json → Option String
  | .object members => do
    match ← fieldValues? ["error"] 1 (.object members) with
    | [some error] => text? error
    | _ => none
  | _ => none

def ofJson (json : Json) : Except Fault Outcome :=
  match Result.ofJson? json, errorOf? json with
  | some result, _ => .ok (.completed result)
  | none, some error => .ok (.failed error)
  | none, none => .error (.noVariant "TargetOutcome")

def decode : Decoder Outcome := fun room => do
  match ofJson (← value stepwise room) with
  | .ok outcome => return outcome
  | .error fault => throw fault

end Outcome

/-! ### Reports -/

abbrev Report := List (String × Outcome)

namespace Report

def record (report : Report) (name : String) (outcome : Outcome) : Report :=
  OrderedMap.put name outcome report

def get? (report : Report) (name : String) : Option Outcome := OrderedMap.get? name report

def totals (report : Report) : Summary :=
  (report.filterMap fun (_, outcome) => outcome.result?).foldl
    (fun total result => total.merge result.summary) .empty

def hasFailures (report : Report) : Bool :=
  report.any fun (_, outcome) =>
    match outcome with
    | .failed _ => true
    | .completed result => 0 < result.summary.failed

def toJson (report : Report) : Json :=
  .object (report.map fun (name, outcome) => (name, outcome.toJson))

def decode : Decoder Report := fun room => do
  (← decodeMap room).foldlM (fun report (name, json) =>
    match Outcome.ofJson json with
    | .ok outcome => return report.record name outcome
    | .error fault => throw fault) []

def ofText (text : String) : Except Fault Report := Json.decode decode text

end Report
end Proctor
