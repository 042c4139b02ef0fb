import Proctor.Json.Decode

/-! Verdicts of the safety scan. -/
namespace Proctor

open Json

inductive Verdict where
  | clean
  | suspicious (reasons : String)
  /-- The detector could not be run; execution goes on. -/
  | scanFailed (reason : String)
deriving DecidableEq, Repr, Inhabited

namespace Verdict

inductive Tag where
  | clean
  | suspicious
  | scanFailed
deriving DecidableEq, Repr

def Tag.name : Tag → String
  | .clean => "clean"
  | .suspicious => "suspicious"
  | .scanFailed => "scan-failed"

def tags : List Tag := [.clean, .suspicious, .scanFailed]

def tag : Verdict → Tag
  | .clean => .clean
  | .suspicious _ => .suspicious
  | .scanFailed _ => .scanFailed

def toJson : Verdict → Json
  | .clean => .object [("verdict", .string "clean")]
  | .suspicious reasons =>
    .object [("verdict", .string "suspicious"), ("reasons", .string reasons)]
  | .scanFailed reason =>
    .object [("verdict", .string "scan-failed"), ("reason", .string reason)]

def decodeTag : Reader Tag := do
  let name ← decodeString "variant identifier"
  match tags.find? (·.name == name) with
  | some tag => return tag
  | none => throw (.unknownVariant name (tags.map Tag.name))

def decodeTagged (room : Nat) :
    Nat → Bool → Option Tag → Reader (Option Tag × List (String × Json))
  | 0, _, _ => throw .endOfObject
  | bound + 1, first, tag? => do
    if ← nextName first then
      let name ← stringToken
      if name = "verdict" then
        if tag?.isSome then throw (.repeatedField name)
        colon
        let tag ← decodeTag
        decodeTagged room bound false (some tag)
      else
        colon
        let content ← value stepwise room
        let (tag?, others) ← decodeTagged room bound false tag?
        return (tag?, (name, content) :: others)
    else return (tag?, [])

def textByName (field : String) : Option String → List (String × Json) → Except Fault String
  | none, [] => .error (.missingField field)
  | some text, [] => .ok text
  | text?, (name, content) :: others =>
    if name = field then
      if text?.isSome then .error (.repeatedField field)
      else
        match content with
        | .string text => textByName field (some text) others
        | other => .error (.wrongType other.found "a string")
    else textByName field text? others

def textInOrder (variant : String) : List Json → Except Fault String
  | [] => .error (.wrongLength 0 s!"struct variant ScanVerdict::{variant} with 1 element")
  | .string text :: others =>
    if others.isEmpty then .ok text
    else .error (.wrongLength (others.length + 1) "1 element in sequence")
  | other :: _ => .error (.wrongType other.found "a string")

def ofMembers : Tag → List (String × Json) → Except Fault Verdict
  | .clean, _ => .ok .clean
  | .suspicious, members => (textByName "reasons" none members).map .suspicious
  | .scanFailed, members => (textByName "reason" none members).map .scanFailed

def ofItems : Tag → List Json → Except Fault Verdict
  | .clean, [] => .ok .clean
  | .clean, items => .error (.wrongLength items.length "0 elements in sequence")
  | .suspicious, items => (textInOrder "Suspicious" items).map .suspicious
  | .scanFailed, items => (textInOrder "ScanFailed" items).map .scanFailed

def decode : Decoder Verdict := fun room => do
  let verdict ←
    match ← peekValue with
    | '[' =>
      entering room fun room => do
        if !(← nextItem true) then throw (.missingField "verdict")
        let tag ← decodeTag
        let rest ← items (value stepwise room) (← bound) false
        endList
        return ofItems tag rest
    | '\x7b' =>
      entering room fun room => do
        match ← decodeTagged room (← bound) true none with
        | (none, _) => throw (.missingField "verdict")
        | (some tag, members) =>
          endObject
          return ofMembers tag members
    | _ => mismatch "internally tagged enum ScanVerdict"
  match verdict with
  | .ok verdict => return verdict
  | .error fault => throw fault

end Verdict
end Proctor
