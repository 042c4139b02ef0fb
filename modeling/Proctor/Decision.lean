import Proctor.Json.Decode
import Proctor.Text.Blank

/-! What a user may decide about a suspicious target. -/
namespace Proctor

open Json

inductive Decision where
  | cancel
  | runAnyway
  | skip
  /-- Open the target in an editor and ask again. -/
  | openAndReask
deriving DecidableEq, Repr, Inhabited

namespace Decision

def all : List Decision := [.cancel, .runAnyway, .skip, .openAndReask]

def name : Decision → String
  | .cancel => "cancel"
  | .runAnyway => "run-anyway"
  | .skip => "skip"
  | .openAndReask => "open-and-reask"

def label : Decision → String
  | .cancel => "Cancel"
  | .runAnyway => "Run anyway"
  | .skip => "Skip"
  | .openAndReask => "Open file"

def shortcut : Decision → Char
  | .cancel => 'c'
  | .runAnyway => 'r'
  | .skip => 's'
  | .openAndReask => 'o'

def word : Decision → String
  | .openAndReask => "open"
  | decision => decision.name

def matchesAnswer (answer : List Char) (decision : Decision) : Bool :=
  answer == [decision.shortcut] || answer == Text.lowerAscii decision.label.toList ||
    answer == decision.word.toList

/-- The decision that a typed answer stands for; blanks around it and the case of letters do not
matter. -/
def ofAnswer? (answer : String) : Option Decision :=
  all.find? (matchesAnswer (Text.lowerAscii (Text.trim answer.toList)))

def unrecognized (answer : String) : String :=
  "unrecognized choice '" ++ String.ofList (Text.trim answer.toList) ++ "'"

def toJson (decision : Decision) : Json := .string decision.name

def ofName (name : String) : Except Fault Decision :=
  match all.find? (·.name == name) with
  | some decision => .ok decision
  | none => .error (.unknownVariant name (all.map Decision.name))

def decode : Decoder Decision := fun room => do
  match ← peekValue with
  | '"' =>
    match ofName (← stringToken) with
    | .ok decision => return decision
    | .error fault => throw fault
  | '\x7b' =>
    entering room fun _ => do
      let name ← decodeString "variant identifier"
      match ofName name with
      | .error fault => throw fault
      | .ok decision =>
        colon
        decodeNull "unit"
        match ← peek with
        | none => throw .endOfObject
        | some '\x7d' =>
          advance
          return decision
        | some _ => throw .expectedValue
  | _ => throw .expectedValue

end Decision
end Proctor
