import Proctor.Literal.Diagnostic
import Proctor.Record

/-! The records in the output of an interpreter. -/
namespace Proctor.Output

def kindOf : Json → String
  | .null => "null"
  | .bool _ => "a boolean"
  | .int _ => "a number"
  | .float _ => "a number"
  | .string _ => "a string"
  | .array _ => "a list"
  | .object _ => "an object"

inductive Misshape where
  | notList (kind : String)
  | notObject (index : Nat) (kind : String)
  | noTest (index : Nat)
  | passedNotBool (index : Nat) (test : String) (kind : String)
  | noPassed (index : Nat) (test : String)
deriving DecidableEq, Repr

def Misshape.message : Misshape → String
  | .notList kind => s!"expected a list of test records, found {kind}"
  | .notObject index kind => s!"record {index} is {kind}, expected an object"
  | .noTest index => s!"record {index} has no 'test' field"
  | .passedNotBool index test kind =>
    s!"record {index} ('{test}'): 'passed' is {kind}, expected a boolean"
  | .noPassed index test => s!"record {index} ('{test}') has no 'passed' field"

inductive Refusal where
  | unreadable (diagnostic : Literal.Diagnostic)
  /-- The script reports an error of its own. -/
  | reported (text : String)
  | misshapen (misshape : Misshape)
deriving DecidableEq, Repr

def Refusal.message : Refusal → String
  | .unreadable diagnostic => s!"Failed to parse interpreter output: {diagnostic.describe}"
  | .reported text => s!"Error: {text}"
  | .misshapen misshape => s!"Unexpected interpreter output: {misshape.message}"

def textOf : Json → String
  | .string text => text
  | value => value.toText

def noValue : String := "<no value>"

def reportedError? : Option Json → Option String
  | none => none
  | some .null => none
  | some error => some (textOf error)

def recordOf (index : Nat) : Json → Except Misshape Record
  | .object members =>
    let field (name : String) := OrderedMap.get? name members
    match field "test", field "passed" with
    | none, _ => .error (.noTest index)
    | some test, none => .error (.noPassed index (textOf test))
    | some test, some (.bool passed) =>
      let received := some (((field "received").map Json.toText).getD noValue)
      .ok (if passed then .pass (textOf test) received
        else .fail (textOf test) received (reportedError? (field "error")))
    | some test, some other => .error (.passedNotBool index (textOf test) (kindOf other))
  | other => .error (.notObject index (kindOf other))

def recordsFrom (index : Nat) : List Json → Except Misshape (List Record)
  | [] => .ok []
  | item :: others => do
    let record ← recordOf index item
    let records ← recordsFrom (index + 1) others
    return record :: records

def recordsOf (value : Json) : Except Refusal (List Record) :=
  match value with
  | .array found => (recordsFrom 0 found).mapError .misshapen
  | .object members =>
    match OrderedMap.get? "error" members with
    | some error => .error (.reported (textOf error))
    | none => .error (.misshapen (.notList "an object"))
  | other => .error (.misshapen (.notList (kindOf other)))

def normalize (raw : String) : Except Refusal (List Record) :=
  match Literal.jsonOfSource raw with
  | .ok value => recordsOf value
  | .error diagnostic => .error (.unreadable diagnostic)

end Proctor.Output
