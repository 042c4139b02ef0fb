import Proctor.Literal.Lexer
import Proctor.Literal.Parser

/-! The reading of a whole source as one literal, and the diagnostic of a source that is none. -/
namespace Proctor.Literal

/-- Why a source is no literal: the first complaint, with its help, and the source itself. -/
structure Diagnostic where
  message : String
  offset : Nat
  length : Nat
  help? : Option String
  source : String
deriving DecidableEq, Repr

namespace Diagnostic

def ofError (source : String) (error : SyntaxError) : Diagnostic where
  message := error.message
  offset := error.span.start
  length := error.span.length
  help? := if error.hints = [] then none else some ("\n".intercalate error.hints)
  source := source

def moreErrors : Nat → List String
  | 0 => []
  | 1 => ["1 more error after this one"]
  | n => [s!"{n} more errors after this one"]

def ofErrors (source : String) : List SyntaxError → Diagnostic
  | [] => ofError source ⟨"invalid literal", ⟨0, 0⟩, []⟩
  | first :: others =>
    ofError source { first with hints := first.hints ++ moreErrors others.length }

def describe (diagnostic : Diagnostic) : String :=
  s!"{diagnostic.message} at offset {diagnostic.offset}"

end Diagnostic

/-- The complaint of a parse that came to no value. A source always has an end, so only a fault
can stop its parse. -/
def Halt.toError : Halt → SyntaxError
  | .fault found => found.parseError
  | .endless => ⟨"invalid literal", ⟨0, 0⟩, []⟩

def ofSource (source : String) : Except Diagnostic Literal :=
  match lex source with
  | .error faults => .error (.ofErrors source (faults.map Located.toSyntaxError))
  | .ok tokens =>
    match parse tokens with
    | .ok literal => .ok literal
    | .error halt => .error (.ofError source halt.toError)

def jsonOfSource (source : String) : Except Diagnostic Json := (ofSource source).map toJson

end Proctor.Literal
